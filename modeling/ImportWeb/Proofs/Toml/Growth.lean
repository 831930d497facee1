import Mathlib.Data.List.Basic
import ImportWeb.Proofs.Toml.Document

/-!
Documents only grow. Whatever the next lines are, the values that a table has stay as they are,
and the elements of an array of tables stay, with the values that they have.
-/

namespace ImportWeb.Toml

namespace Fields

variable {key k : String} {item : Item} {f g h : Fields}

theorem item?_cons (entry : String × Item) (f : Fields) :
    item? k (entry :: f) = if entry.1 = k then some entry.2 else item? k f := by
  rw [item?, List.find?_cons]
  by_cases hk : entry.1 = k <;> simp [hk, item?]

/-- Putting an item changes what is under its key and nothing else. -/
theorem item?_set (k key : String) (item : Item) (f : Fields) :
    item? k (set key item f) = if key = k then some item else item? k f := by
  induction f with
  | nil => rw [set, item?_cons]
  | cons entry f ih =>
    rw [set]
    by_cases hentry : entry.1 = key
    · rw [if_pos hentry, item?_cons, item?_cons, hentry]
      split <;> rfl
    · rw [if_neg hentry, item?_cons, item?_cons, ih]
      by_cases hk : entry.1 = k
      · rw [if_pos hk, if_pos hk, if_neg fun hkey => hentry (hk.trans hkey.symm)]
      · rw [if_neg hk, if_neg hk]

/-- The values of a table are in the other one too. -/
def Keeps (f g : Fields) : Prop := ∀ k v, item? k f = some (.value v) → item? k g = some (.value v)

/-- The values of a table are in the other one too, and so are the elements of its arrays of
tables, with their values. -/
structure Grows (f g : Fields) : Prop where
  keeps : Keeps f g
  elements {k : String} {ts : List Fields} : item? k f = some (.tables ts) →
    ∃ ts', item? k g = some (.tables ts') ∧ ∀ x ∈ ts, ∃ y ∈ ts', Keeps x y

namespace Grows

theorem refl (f : Fields) : Grows f f :=
  ⟨fun _ _ hv => hv, fun hts => ⟨_, hts, fun x hx => ⟨x, hx, fun _ _ hv => hv⟩⟩⟩

theorem trans (hfg : Grows f g) (hgh : Grows g h) : Grows f h := by
  refine ⟨fun k v hv => hgh.keeps k v (hfg.keeps k v hv), fun hts => ?_⟩
  obtain ⟨ts', hts', hkept⟩ := hfg.elements hts
  obtain ⟨ts'', hts'', hkept'⟩ := hgh.elements hts'
  refine ⟨ts'', hts'', fun x hx => ?_⟩
  obtain ⟨y, hy, hxy⟩ := hkept x hx
  obtain ⟨z, hz, hyz⟩ := hkept' y hy
  exact ⟨z, hz, fun k v hv => hyz k v (hxy k v hv)⟩

/-- Putting an item that keeps what was under its key. -/
theorem set (hvalue : ∀ v, item? key f ≠ some (.value v))
    (htables : ∀ ts, item? key f = some (.tables ts) →
      ∃ ts', item = .tables ts' ∧ ∀ x ∈ ts, ∃ y ∈ ts', Keeps x y) :
    Grows f (set key item f) := by
  refine ⟨fun k v hv => ?_, fun {k ts} hts => ?_⟩
  · rw [item?_set]
    split
    case isTrue hk => exact absurd (hk ▸ hv) (hvalue v)
    case isFalse => exact hv
  · rw [item?_set]
    split
    case isTrue hk =>
      obtain ⟨ts', rfl, hkept⟩ := htables ts (hk ▸ hts)
      exact ⟨ts', rfl, hkept⟩
    case isFalse => exact (refl f).elements hts

theorem set_new (hnew : item? key f = none) : Grows f (Fields.set key item f) := by
  refine set ?_ ?_ <;> simp [hnew]

theorem set_table {implicit dotted : Bool} {inner : Fields}
    (htable : item? key f = some (.table implicit dotted inner)) :
    Grows f (Fields.set key item f) := by
  refine set ?_ ?_ <;> simp [htable]

theorem set_tables {ts ts' : List Fields} (hts : item? key f = some (.tables ts))
    (hkept : ∀ x ∈ ts, ∃ y ∈ ts', Keeps x y) : Grows f (Fields.set key (.tables ts') f) := by
  refine set (by simp [hts]) fun ts'' hts'' => ⟨ts', rfl, ?_⟩
  have heq : ts = ts'' := by simpa [hts] using hts''
  exact heq ▸ hkept

end Grows

end Fields

open Fields (item? Keeps Grows)

namespace Table

variable {dotted : Bool} {change : Table → Option Table} {path : List String} {t t' : Table}

theorem within_grows (hchange : ∀ t t', change t = some t' → Grows t.fields t'.fields)
    (h : within dotted change path t = some t') : Grows t.fields t'.fields := by
  induction path generalizing t t' with
  | nil => exact hchange t t' h
  | cons key path ih =>
    rw [within] at h
    cases hitem : item? key t.fields with
    | none =>
      rw [hitem] at h
      obtain ⟨child, -, heq⟩ := Option.bind_eq_some_iff.1 h
      cases heq
      exact .set_new hitem
    | some item =>
      rw [hitem] at h
      cases item with
      | value v => cases h
      | tables ts =>
        obtain ⟨last, hlast, h⟩ := Option.bind_eq_some_iff.1 h
        obtain ⟨child, hchild, heq⟩ := Option.bind_eq_some_iff.1 h
        cases heq
        refine .set_tables hitem fun x hx => ?_
        rw [← List.dropLast_append_getLast? last hlast, List.mem_append, List.mem_singleton] at hx
        rcases hx with hx | rfl
        · exact ⟨x, List.mem_append_left _ hx, fun _ _ hv => hv⟩
        · exact ⟨child.fields, List.mem_append_right _ (List.mem_singleton_self _),
            (ih hchild).keeps⟩
      | table implicit isDotted fields =>
        dsimp only at h
        split at h
        · cases h
        · obtain ⟨child, -, heq⟩ := Option.bind_eq_some_iff.1 h
          cases heq
          exact .set_table hitem

theorem addValue_grows {v : Value} (h : addValue path v t = some t') :
    Grows t.fields t'.fields := by
  obtain ⟨key, -, h⟩ := Option.bind_eq_some_iff.1 h
  refine within_grows (fun t t' h => ?_) h
  split at h
  · cases h
  · split at h
    case isTrue => cases h
    case isFalse hnew =>
      cases h
      exact .set_new (by simpa using hnew)

theorem openTable_grows (h : openTable path t = some t') : Grows t.fields t'.fields := by
  obtain ⟨key, -, h⟩ := Option.bind_eq_some_iff.1 h
  refine within_grows (fun t t' h => ?_) h
  split at h
  case h_1 hnew =>
    cases h
    exact .set_new hnew
  case h_2 htable =>
    cases h
    exact .set_table htable
  case h_3 => cases h

theorem openElement_grows (h : openElement path t = some t') : Grows t.fields t'.fields := by
  obtain ⟨key, -, h⟩ := Option.bind_eq_some_iff.1 h
  refine within_grows (fun t t' h => ?_) h
  split at h
  case h_1 hnew =>
    cases h
    exact .set_new hnew
  case h_2 ts hts =>
    cases h
    exact .set_tables hts fun x hx => ⟨x, List.mem_append_left _ hx, fun _ _ hv => hv⟩
  case h_3 => cases h

end Table

variable {s r : List Char} {reading next : Reading}

theorem header?_grows (h : header? reading s = some (next, r)) :
    Grows reading.document.fields next.document.fields := by
  unfold header? at h
  split at h
  all_goals
    obtain ⟨⟨path, rest⟩, -, h⟩ := Option.bind_eq_some_iff.1 h
    obtain ⟨rest, -, h⟩ := Option.bind_eq_some_iff.1 h
    obtain ⟨document, hdocument, h⟩ := Option.bind_eq_some_iff.1 h
    obtain ⟨rest, -, heq⟩ := Option.bind_eq_some_iff.1 h
    cases heq
  · exact Table.openElement_grows hdocument
  · exact Table.openTable_grows hdocument

theorem keyValue?_grows (h : keyValue? reading s = some (next, r)) :
    Grows reading.document.fields next.document.fields := by
  obtain ⟨⟨path, rest⟩, -, h⟩ := Option.bind_eq_some_iff.1 h
  obtain ⟨rest, -, h⟩ := Option.bind_eq_some_iff.1 h
  obtain ⟨⟨v, rest⟩, -, h⟩ := Option.bind_eq_some_iff.1 h
  obtain ⟨document, hdocument, h⟩ := Option.bind_eq_some_iff.1 h
  obtain ⟨rest, -, heq⟩ := Option.bind_eq_some_iff.1 h
  cases heq
  exact Table.within_grows (fun _ _ => Table.addValue_grows) hdocument

theorem line?_grows (h : line? reading s = some (next, r)) :
    Grows reading.document.fields next.document.fields := by
  unfold line? at h
  split at h
  · exact header?_grows h
  split at h
  · cases h
    exact .refl _
  split at h
  · obtain ⟨rest, -, heq⟩ := Option.map_eq_some_iff.1 h
    cases heq
    exact .refl _
  · exact keyValue?_grows h

theorem lines?_grows {fuel : Nat} {t : Table} (h : lines? fuel reading s = some t) :
    Grows reading.document.fields t.fields := by
  induction fuel generalizing reading s with
  | zero => cases h
  | succ fuel ih =>
    rw [lines?_succ] at h
    split at h
    · cases h
      exact .refl _
    · obtain ⟨⟨next, rest⟩, hline, h⟩ := Option.bind_eq_some_iff.1 h
      exact (line?_grows hline).trans (ih h)

/-! ### The value of a table -/

theorem find?_fieldsToValues (key : String) (fields : Fields) :
    ((fieldsToValues fields).find? fun f => f.1 = key).map (·.2) =
      (item? key fields).map Item.toValue := by
  induction fields with
  | nil => rfl
  | cons f fields ih =>
    rw [Fields.item?_cons, fieldsToValues, List.find?_cons]
    by_cases hf : f.1 = key
    · simp [hf]
    · simp [hf, ih]

theorem tablesToValues_eq (ts : List Fields) :
    tablesToValues ts = ts.map fun fields => .table (fieldsToValues fields) := by
  induction ts with
  | nil => rfl
  | cons fields ts ih => rw [tablesToValues, ih, List.map_cons]

end ImportWeb.Toml
