import Mathlib.Data.List.Infix
import ImportWeb.Proofs.Json.Spelling

/-!
The written forms of a JSON value are spellings of it: the compact one, and the one spread over
lines at any level. So a value without reals is read back from either.
-/

namespace ImportWeb.Json

/-- Values in which all numbers are integers. -/
inductive Exact : Json → Prop where
  | null : Exact .null
  | bool (b : Bool) : Exact (.bool b)
  | integer (n : Int) : Exact (.integer n)
  | string (s : String) : Exact (.string s)
  | array {items : List Json} (h : ∀ j ∈ items, Exact j) : Exact (.array items)
  | object {fields : List (String × Json)} (h : ∀ f ∈ fields, Exact f.2) : Exact (.object fields)

variable {j : Json}

/-! ### Strings -/

theorem readHex4?_control {n : Nat} (h : n < 0x20) :
    readHex4? ['0', '0', hexDigit (n / 16), hexDigit (n % 16)] = some (n, []) := by
  have hall : ∀ n, n < 0x20 →
      readHex4? ['0', '0', hexDigit (n / 16), hexDigit (n % 16)] = some (n, []) := by decide
  exact hall n h

theorem letter_escapeChar (c : Char) : Letter c (escapeChar c) := by
  unfold escapeChar
  split_ifs with hquote hslash hb hf hn hr ht hcontrol
  case pos => subst hquote; exact .short rfl
  case pos => subst hslash; exact .short rfl
  case pos => subst hb; exact .short rfl
  case pos => subst hf; exact .short rfl
  case pos => subst hn; exact .short rfl
  case pos => subst hr; exact .short rfl
  case pos => subst ht; exact .short rfl
  case pos => exact .code (readHex4?_control hcontrol)
  case neg => exact .plain hquote hslash hcontrol

theorem letters_escape (s : List Char) : Letters s (s.flatMap escapeChar) := by
  induction s with
  | nil => exact .nil
  | cons c s ih => exact .cons (letter_escapeChar c) ih

theorem spells_quoted (s : String) : Spells (.value (.string s)) (quoted s) :=
  .string (letters_escape s.toList)

theorem named_quoted (key : String) {w : List Char} (hw : Blank w) :
    Named key (quoted key ++ ':' :: w) := by
  have h := Named.mk (letters_escape key.toList) blank_nil hw
  simpa [quoted] using h

/-! ### On one line -/

theorem spells_compactItems {rest : List Json}
    (h : ∀ i ∈ j :: rest, Spells (.value i) i.compact) :
    Spells (.items (j :: rest)) (j.compact ++ compactItems rest) := by
  induction rest generalizing j with
  | nil => exact .lastItem (h j List.mem_cons_self) blank_nil
  | cons next rest ih =>
    obtain ⟨hj, hrest⟩ := List.forall_mem_cons.1 h
    have hnext := Spells.item hj blank_nil blank_nil (ih hrest)
    exact hnext

theorem spells_compactFields {key : String} {rest : List (String × Json)}
    (h : ∀ f ∈ (key, j) :: rest, Spells (.value f.2) f.2.compact) :
    Spells (.fields ((key, j) :: rest))
      (quoted key ++ ':' :: (j.compact ++ compactFields rest)) := by
  have hkey := named_quoted key blank_nil
  induction rest generalizing key j with
  | nil =>
    have hlast := Spells.lastField hkey (h (key, j) List.mem_cons_self) blank_nil
    simpa [compactFields] using hlast
  | cons next rest ih =>
    obtain ⟨hj, hrest⟩ := List.forall_mem_cons.1 h
    have hnext := Spells.field hkey hj blank_nil blank_nil (ih hrest (named_quoted _ blank_nil))
    simpa [compactFields] using hnext

theorem spells_compact (h : Exact j) : Spells (.value j) j.compact := by
  induction h with
  | null => exact .null
  | bool b => cases b <;> exact .bool _
  | integer n => exact .integer n
  | string s => exact spells_quoted s
  | @array items _ ih =>
    cases items with
    | nil => exact .noItems blank_nil
    | cons item rest =>
      have harray := Spells.array blank_nil (spells_compactItems ih)
      exact harray
  | @object fields _ ih =>
    cases fields with
    | nil => exact .noFields blank_nil
    | cons field rest =>
      have hobject := Spells.object blank_nil (spells_compactFields ih)
      exact hobject

/-! ### Over several lines -/

theorem blank_newline (level : Nat) : Blank (newline level) := by
  intro c hc
  rcases List.mem_cons.1 hc with rfl | hc
  · rfl
  · obtain rfl := List.eq_of_mem_replicate hc
    rfl

theorem blank_space : Blank [' '] := by
  intro c hc
  obtain rfl := List.mem_singleton.1 hc
  rfl

theorem spells_prettyItems {level : Nat} {rest : List Json}
    (h : ∀ i ∈ j :: rest, Spells (.value i) (i.pretty (level + 1))) :
    Spells (.items (j :: rest)) (j.pretty (level + 1) ++ prettyItems level rest) := by
  induction rest generalizing j with
  | nil => exact .lastItem (h j List.mem_cons_self) (blank_newline level)
  | cons next rest ih =>
    obtain ⟨hj, hrest⟩ := List.forall_mem_cons.1 h
    have hnext := Spells.item hj blank_nil (blank_newline (level + 1)) (ih hrest)
    simpa [prettyItems] using hnext

theorem spells_prettyFields {level : Nat} {key : String} {rest : List (String × Json)}
    (h : ∀ f ∈ (key, j) :: rest, Spells (.value f.2) (f.2.pretty (level + 1))) :
    Spells (.fields ((key, j) :: rest))
      (quoted key ++ ':' :: ' ' :: (j.pretty (level + 1) ++ prettyFields level rest)) := by
  have hkey := named_quoted key blank_space
  induction rest generalizing key j with
  | nil =>
    have hlast := Spells.lastField hkey (h (key, j) List.mem_cons_self) (blank_newline level)
    simpa [prettyFields] using hlast
  | cons next rest ih =>
    obtain ⟨hj, hrest⟩ := List.forall_mem_cons.1 h
    have hnext := Spells.field hkey hj blank_nil (blank_newline (level + 1))
      (ih hrest (named_quoted _ blank_space))
    simpa [prettyFields] using hnext

theorem spells_pretty (h : Exact j) (level : Nat) : Spells (.value j) (j.pretty level) := by
  induction h generalizing level with
  | null => exact .null
  | bool b => cases b <;> exact .bool _
  | integer n => exact .integer n
  | string s => exact spells_quoted s
  | @array items _ ih =>
    cases items with
    | nil => exact .noItems blank_nil
    | cons item rest =>
      have hitems := spells_prettyItems fun i hi => ih i hi (level + 1)
      have harray := Spells.array (blank_newline (level + 1)) hitems
      simpa [pretty] using harray
  | @object fields _ ih =>
    cases fields with
    | nil => exact .noFields blank_nil
    | cons field rest =>
      have hfields := spells_prettyFields fun f hf => ih f hf (level + 1)
      have hobject := Spells.object (blank_newline (level + 1)) hfields
      simpa [pretty] using hobject

end ImportWeb.Json
