import ImportWeb.Proofs.Toml.Growth

/-!
Texts that end inside an element of an array of tables. The keys on the next lines go to that
element, and stay in it whatever lines follow.
-/

namespace ImportWeb.Toml

open Fields (item? Keeps Grows)

variable {key : String} {t t' : Table} {s before after rest : List Char}

/-- The text without a byte order mark at its start. -/
def withoutMark : List Char → List Char
  | '\ufeff' :: rest => rest
  | s => s

/-- Where the lines of a text lead. -/
def readingOf? (s : List Char) : Option Reading :=
  linesTo? ((withoutMark s).length + 1) ⟨.root, []⟩ (withoutMark s)

/-- The keys that come next go to the last element of the array of tables under a key. -/
def Reading.inElement (key : String) (reading : Reading) : Bool :=
  reading.path = [key] &&
    match item? key reading.document.fields with
    | some (.tables ts) => ! ts.isEmpty
    | _ => false

/-- The text ends in a line break inside an element of the array of tables under a key. -/
def EndsInElement (key : String) (s : List Char) : Prop :=
  s.getLast? = some '\n' ∧ (readingOf? s).any (·.inElement key) = true

instance (key : String) (s : List Char) : Decidable (EndsInElement key s) :=
  inferInstanceAs (Decidable (_ ∧ _))

theorem parse?_eq (s : List Char) :
    parse? s = (lines? ((withoutMark s).length + 1) ⟨.root, []⟩ (withoutMark s)).map
      fun t => t.item.toValue := by
  cases s with
  | nil => rfl
  | cons c s =>
    by_cases hc : c = '\ufeff'
    · subst hc
      rfl
    · simp [parse?, withoutMark, hc]

theorem withoutMark_append (hs : s ≠ []) (rest : List Char) :
    withoutMark (s ++ rest) = withoutMark s ++ rest := by
  obtain ⟨c, s, rfl⟩ := List.exists_cons_of_ne_nil hs
  by_cases hc : c = '\ufeff'
  · subst hc
    rfl
  · simp [withoutMark, hc]

theorem getLast?_withoutMark (hbroken : s.getLast? = some '\n') :
    withoutMark s ≠ [] → (withoutMark s).getLast? = some '\n' := by
  intro hs
  cases s with
  | nil => cases hbroken
  | cons c s =>
    by_cases hc : c = '\ufeff'
    · subst hc
      obtain ⟨d, s, rfl⟩ := List.exists_cons_of_ne_nil hs
      exact hbroken
    · have hself : withoutMark (c :: s) = c :: s := by simp [withoutMark, hc]
      rw [hself]
      exact hbroken

/-- After a text that ends inside an element, the rest is read as a part of that element. -/
theorem EndsInElement.exists_lines? (h : EndsInElement key s) {v : Value}
    (hparse : parse? (s ++ rest) = some v) :
    ∃ reading ts fuel t, reading.path = [key] ∧
      item? key reading.document.fields = some (.tables ts) ∧ ts ≠ [] ∧
      lines? fuel reading rest = some t ∧ t.item.toValue = v := by
  obtain ⟨hbroken, hinside⟩ := h
  obtain ⟨reading, hreading, hinside⟩ := (Option.any_eq_true _ _).1 hinside
  rw [Reading.inElement, Bool.and_eq_true, decide_eq_true_eq] at hinside
  obtain ⟨hpath, hinside⟩ := hinside
  have hne : s ≠ [] := by
    rintro rfl
    cases hbroken
  rw [parse?_eq, withoutMark_append hne] at hparse
  obtain ⟨t, ht, hv⟩ := Option.map_eq_some_iff.1 hparse
  obtain ⟨fuel, hlines⟩ := exists_lines?_of_append (getLast?_withoutMark hbroken) hreading ht
  split at hinside
  case h_1 ts hts =>
    exact ⟨reading, ts, fuel, t, hpath, hts, by simpa using hinside, hlines, hv⟩
  case h_2 => cases hinside

theorem within_element {change : Table → Option Table} {ts : List Fields}
    (hts : item? key t.fields = some (.tables ts))
    (h : Table.within false change [key] t = some t') :
    ∃ last child, change ⟨false, false, last⟩ = some child ∧
      item? key t'.fields = some (.tables (ts.dropLast ++ [child.fields])) := by
  rw [Table.within, hts] at h
  obtain ⟨last, -, h⟩ := Option.bind_eq_some_iff.1 h
  obtain ⟨child, hchild, heq⟩ := Option.bind_eq_some_iff.1 h
  cases heq
  exact ⟨last, child, hchild, by rw [Table.put, Fields.item?_set, if_pos rfl]⟩

theorem item?_addValue {v : Value} (h : t.addValue [key] v = some t') :
    item? key t'.fields = some (.value v) := by
  simp only [Table.addValue, List.getLast?_singleton, List.dropLast_singleton, Table.within,
    Option.bind_eq_bind, Option.bind_some] at h
  split at h
  · cases h
  split at h
  · cases h
  · cases h
    rw [Table.put, Fields.item?_set, if_pos rfl]

/-- The array of tables stays when the text goes on. -/
theorem EndsInElement.exists_tables (h : EndsInElement key s) {v : Value}
    (hparse : parse? (s ++ rest) = some v) :
    ∃ (t : Table) (ts : List Fields), v = t.item.toValue ∧
      item? key t.fields = some (.tables ts) ∧ ts ≠ [] := by
  obtain ⟨reading, ts, fuel, t, -, hts, hne, hlines, rfl⟩ := h.exists_lines? hparse
  obtain ⟨ts', hts', hkept⟩ := (lines?_grows hlines).elements hts
  refine ⟨t, ts', rfl, hts', ?_⟩
  rintro rfl
  obtain ⟨x, hx⟩ := List.exists_mem_of_ne_nil ts hne
  obtain ⟨y, hy, -⟩ := hkept x hx
  cases hy

/-- A key on the next line is still in an element at the end of the document. -/
theorem EndsInElement.exists_element {name : String} {v value : Value}
    (h : EndsInElement key s) (hspace : skipSpace rest ≠ [])
    (hline : ∀ reading : Reading, line? reading rest =
      (reading.document.within false (·.addValue [name] v) reading.path).map
        fun document => (⟨document, reading.path⟩, after))
    (hparse : parse? (s ++ rest) = some value) :
    ∃ (t : Table) (ts : List Fields) (element : Fields), value = t.item.toValue ∧
      item? key t.fields = some (.tables ts) ∧ element ∈ ts ∧
      item? name element = some (.value v) := by
  obtain ⟨reading, ts, fuel, t, hpath, hts, -, hlines, rfl⟩ := h.exists_lines? hparse
  cases fuel with
  | zero => cases hlines
  | succ fuel =>
    rw [lines?_succ, if_neg hspace, hline, hpath] at hlines
    obtain ⟨_, hread, hlines⟩ := Option.bind_eq_some_iff.1 hlines
    obtain ⟨document, hdocument, rfl⟩ := Option.map_eq_some_iff.1 hread
    obtain ⟨last, child, hchild, hts'⟩ := within_element hts hdocument
    obtain ⟨ts', hts', hkept⟩ := (lines?_grows hlines).elements hts'
    obtain ⟨element, helement, hkept⟩ := hkept child.fields (by simp)
    exact ⟨t, ts', element, rfl, hts', helement, hkept name v (item?_addValue hchild)⟩

end ImportWeb.Toml

