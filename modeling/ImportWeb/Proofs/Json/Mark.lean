import Mathlib.Data.List.Infix
import ImportWeb.Json

/-!
Marks of another language in JSON. A mark starts with a less-than sign, which JSON writes in
strings only, and it has none of the characters that JSON puts around or into a string. So a mark
in a written value is a mark in one of the value's strings.
-/

namespace ImportWeb.Json

/-! ### Marks in a text -/

/-- The characters that separate JSON values and their parts, a text's own ones among them. -/
def breaks : List Char := ['\\', '"', '\x7b', '\x7d', '[', ']', '(', ')', ',', ':', ';', ' ']

/-- A text that starts with a less-than sign and that stands in the data or not at all. -/
structure Mark (w : List Char) : Prop where
  less : ∃ rest, w = '<' :: rest
  unbroken : ∀ c ∈ breaks, c ∉ w

variable {w a b s t : List Char} {c : Char}

theorem Mark.ne_nil (hw : Mark w) : w ≠ [] := by
  obtain ⟨rest, rfl⟩ := hw.less
  exact List.cons_ne_nil _ _

theorem Mark.mem (hw : Mark w) : '<' ∈ w := by
  obtain ⟨rest, rfl⟩ := hw.less
  exact List.mem_cons_self

theorem Mark.not_infix (hw : Mark w) (h : '<' ∉ t) : ¬ w <:+: t := fun hwithin =>
  h (hwithin.subset hw.mem)

/-- A mark does not reach over a break. -/
theorem Mark.infix_append (hw : Mark w) (hc : c ∈ breaks) (h : w <:+: a ++ c :: b) :
    w <:+: a ∨ w <:+: c :: b := by
  rcases List.infix_append_iff.1 h with h | h | ⟨x, y, rfl, hx, hy⟩
  · exact .inl h
  · exact .inr h
  · cases y with
    | nil => exact .inl (by simpa using hx.isInfix)
    | cons d y =>
      obtain ⟨rfl, -⟩ := List.cons_prefix_cons.1 hy
      exact absurd (by simp) (hw.unbroken _ hc)

/-- A mark does not start where there is no less-than sign. -/
theorem Mark.infix_of_append (hw : Mark w) (ha : '<' ∉ a) (h : w <:+: a ++ b) : w <:+: b := by
  rcases List.infix_append_iff.1 h with h | h | ⟨x, y, heq, hx, hy⟩
  · exact absurd h (hw.not_infix ha)
  · exact h
  · cases x with
    | nil => exact heq ▸ hy.isInfix
    | cons d x =>
      obtain ⟨rest, rfl⟩ := hw.less
      obtain ⟨rfl, -⟩ := List.cons.inj heq
      exact absurd (hx.subset List.mem_cons_self) ha

theorem Mark.infix_of_cons (hw : Mark w) (hc : c ≠ '<') (h : w <:+: c :: t) : w <:+: t :=
  hw.infix_of_append (a := [c]) (by simpa using hc.symm) h

/-! ### Marks in JSON -/

theorem escapeChar_cases (c : Char) :
    escapeChar c = [c] ∨ ∃ rest, escapeChar c = '\\' :: rest ∧ '<' ∉ rest := by
  have hdigit (n : Nat) : '<' ≠ hexDigit n := (Nat.digitChar_ne '<' rfl).symm
  unfold escapeChar
  split_ifs
  all_goals first
    | exact .inl rfl
    | exact .inr ⟨_, rfl, by simp [hdigit]⟩

theorem prefix_of_prefix_escape (hw : '\\' ∉ w) (h : w <+: s.flatMap escapeChar) : w <+: s := by
  induction s generalizing w with
  | nil => exact h
  | cons c s ih =>
    cases w with
    | nil => exact List.nil_prefix
    | cons d w =>
      rw [List.flatMap_cons] at h
      rcases escapeChar_cases c with hc | ⟨rest, hc, -⟩
      · rw [hc, List.singleton_append] at h
        obtain ⟨rfl, hrest⟩ := List.cons_prefix_cons.1 h
        exact List.cons_prefix_cons.2 ⟨rfl, ih (fun hmem => hw (List.mem_cons_of_mem _ hmem)) hrest⟩
      · rw [hc, List.cons_append] at h
        obtain ⟨rfl, -⟩ := List.cons_prefix_cons.1 h
        exact absurd List.mem_cons_self hw

theorem Mark.infix_of_escape (hw : Mark w) (h : w <:+: s.flatMap escapeChar) : w <:+: s := by
  induction s with
  | nil => exact h
  | cons c s ih =>
    have hcons : s <:+: c :: s := (List.suffix_cons c s).isInfix
    have hstart := prefix_of_prefix_escape (s := c :: s) (hw.unbroken '\\' (by decide))
    rw [List.flatMap_cons] at h hstart
    rcases escapeChar_cases c with hc | ⟨rest, hc, hrest⟩
    · rw [hc, List.singleton_append] at h hstart
      rcases List.infix_cons_iff.1 h with h | h
      · exact (hstart h).isInfix
      · exact (ih h).trans hcons
    · rw [hc] at h
      have hfree : '<' ∉ '\\' :: rest := by simpa using hrest
      exact (ih (hw.infix_of_append hfree h)).trans hcons

theorem Mark.infix_of_quoted (hw : Mark w) {text : String} (h : w <:+: quoted text) :
    w <:+: text.toList := by
  have hinner := hw.infix_of_cons (by decide) h
  rcases hw.infix_append (by decide) hinner with h | h
  · exact hw.infix_of_escape h
  · exact absurd h (hw.not_infix (by decide))

/-! ### Numbers -/

theorem less_not_mem_decimal (n : Nat) : '<' ∉ Text.decimal n := fun h =>
  absurd (Nat.isDigit_of_mem_toDigits (by decide) (by decide) h) (by decide)

theorem less_not_mem_integerChars (n : Int) : '<' ∉ integerChars n := by
  unfold integerChars
  split <;> simp [less_not_mem_decimal]

theorem less_not_mem_exponentChars (e : Int) : '<' ∉ Double.exponentChars e := by
  unfold Double.exponentChars
  split <;> simp [less_not_mem_decimal]

theorem less_not_mem_layOut {digits : List Char} (h : '<' ∉ digits) (k : Int) :
    '<' ∉ Double.layOut digits k := by
  unfold Double.layOut
  dsimp only
  split_ifs
  · simp [h]
  · simp only [List.mem_append, List.mem_cons, not_or]
    exact ⟨fun hmem => h (List.mem_of_mem_take hmem), by decide,
      fun hmem => h (List.mem_of_mem_drop hmem)⟩
  · simp [h]
  · split
    · simp
    · simp only [List.mem_cons, not_or] at h ⊢
      exact ⟨h.1, less_not_mem_exponentChars _⟩
    · simp only [List.cons_append, List.mem_cons, List.mem_append, not_or] at h ⊢
      exact ⟨h.1, by decide, h.2, less_not_mem_exponentChars _⟩

theorem less_not_mem_realChars (x : Double) : '<' ∉ realChars x := by
  unfold realChars Double.text?
  cases x with
  | finite negative m q =>
    have hdigits : '<' ∉ (if m = 0 then "0.0".toList else
        Double.layOut (Text.decimal (Double.shortest m q).1) (Double.shortest m q).2) := by
      split
      · decide
      · exact less_not_mem_layOut (less_not_mem_decimal _) _
    cases negative with
    | false => exact hdigits
    | true => exact List.not_mem_cons_of_ne_of_not_mem (by decide) hdigits
  | infinite => exact (by decide : '<' ∉ "null".toList)
  | nan => exact (by decide : '<' ∉ "null".toList)

/-! ### Values -/

mutual

/-- The strings in a value, names of fields among them. -/
def texts : Json → List String
  | .string s => [s]
  | .array items => textsOfItems items
  | .object fields => textsOfFields fields
  | _ => []

def textsOfItems : List Json → List String
  | [] => []
  | item :: rest => texts item ++ textsOfItems rest

def textsOfFields : List (String × Json) → List String
  | [] => []
  | (key, value) :: rest => key :: (texts value ++ textsOfFields rest)

end

theorem Mark.infix_append_items (hw : Mark w) {items : List Json}
    (h : w <:+: a ++ compactItems items) : w <:+: a ∨ w <:+: compactItems items := by
  cases items with
  | nil => exact hw.infix_append (by decide) h
  | cons item rest => exact hw.infix_append (by decide) h

theorem Mark.infix_append_fields (hw : Mark w) {fields : List (String × Json)}
    (h : w <:+: a ++ compactFields fields) : w <:+: a ∨ w <:+: compactFields fields := by
  cases fields with
  | nil => exact hw.infix_append (by decide) h
  | cons field rest => exact hw.infix_append (by decide) h

mutual

/-- A mark in a written value is one in a string. -/
theorem Mark.infix_of_compact (hw : Mark w) (j : Json) (h : w <:+: j.compact) :
    ∃ text ∈ j.texts, w <:+: text.toList := by
  match j with
  | .null => exact absurd h (hw.not_infix (by decide))
  | .bool true => exact absurd h (hw.not_infix (by decide))
  | .bool false => exact absurd h (hw.not_infix (by decide))
  | .integer n => exact absurd h (hw.not_infix (less_not_mem_integerChars n))
  | .real x => exact absurd h (hw.not_infix (less_not_mem_realChars x))
  | .string s => exact ⟨s, List.mem_singleton_self s, hw.infix_of_quoted h⟩
  | .array [] => exact absurd h (hw.not_infix (by decide))
  | .array (item :: rest) =>
    have hitems : w <:+: compactItems (item :: rest) :=
      (hw.infix_of_cons (by decide) h).trans (List.suffix_cons ',' _).isInfix
    exact Mark.infix_of_compactItems hw (item :: rest) hitems
  | .object [] => exact absurd h (hw.not_infix (by decide))
  | .object ((key, value) :: rest) =>
    have hfields : w <:+: compactFields ((key, value) :: rest) :=
      (hw.infix_of_cons (by decide) h).trans (List.suffix_cons ',' _).isInfix
    exact Mark.infix_of_compactFields hw ((key, value) :: rest) hfields

theorem Mark.infix_of_compactItems (hw : Mark w) (items : List Json)
    (h : w <:+: compactItems items) : ∃ text ∈ textsOfItems items, w <:+: text.toList := by
  match items with
  | [] => exact absurd h (hw.not_infix (by decide))
  | item :: rest =>
    rcases hw.infix_append_items (hw.infix_of_cons (by decide) h) with h | h
    · obtain ⟨text, htext, h⟩ := Mark.infix_of_compact hw item h
      exact ⟨text, List.mem_append_left _ htext, h⟩
    · obtain ⟨text, htext, h⟩ := Mark.infix_of_compactItems hw rest h
      exact ⟨text, List.mem_append_right _ htext, h⟩

theorem Mark.infix_of_compactFields (hw : Mark w) (fields : List (String × Json))
    (h : w <:+: compactFields fields) : ∃ text ∈ textsOfFields fields, w <:+: text.toList := by
  match fields with
  | [] => exact absurd h (hw.not_infix (by decide))
  | (key, value) :: rest =>
    rcases hw.infix_append (by decide) (hw.infix_of_cons (by decide) h) with h | h
    · exact ⟨key, List.mem_cons_self, hw.infix_of_quoted h⟩
    · rcases hw.infix_append_fields (hw.infix_of_cons (by decide) h) with h | h
      · obtain ⟨text, htext, h⟩ := Mark.infix_of_compact hw value h
        exact ⟨text, List.mem_cons_of_mem _ (List.mem_append_left _ htext), h⟩
      · obtain ⟨text, htext, h⟩ := Mark.infix_of_compactFields hw rest h
        exact ⟨text, List.mem_cons_of_mem _ (List.mem_append_right _ htext), h⟩

end

end ImportWeb.Json
