import ImportWeb.Proofs.Pattern.Taken
import ImportWeb.Proofs.Style.Anchor
import ImportWeb.Style.Registry

/-!
The forms of Python's import lines. A plain import and an import of names are two patterns, and
either is a shape of the whole line, its comment included. No line has both shapes, so at most one
of the two styles matches a line.
-/

namespace ImportWeb.Python

/-! ### The two forms -/

/-- The keyword and something after it. -/
def IsPlain (line : List Char) : Prop :=
  ∃ c rest, line = "import ".toList ++ c :: rest ∧ c ≠ '\n'

/-- Both keywords, something between them and something after them. -/
def IsFrom (line : List Char) : Prop :=
  ∃ origin c rest, line = "from ".toList ++ (origin ++ (" import ".toList ++ c :: rest)) ∧
    origin ≠ [] ∧ '\n' ∉ origin ∧ c ≠ '\n'

variable {line : List Char}

theorem not_isFrom_of_isPlain (h : IsPlain line) : ¬ IsFrom line := by
  obtain ⟨c, rest, rfl, -⟩ := h
  rintro ⟨origin, d, rest', h, -⟩
  cases h

theorem IsPlain.append (h : IsPlain line) (s : List Char) : IsPlain (line ++ s) := by
  obtain ⟨c, rest, rfl, hc⟩ := h
  exact ⟨c, rest ++ s, rfl, hc⟩

theorem IsFrom.append (h : IsFrom line) (s : List Char) : IsFrom (line ++ s) := by
  obtain ⟨origin, c, rest, rfl, hne, horigin, hc⟩ := h
  exact ⟨origin, c, rest ++ s, by simp, hne, horigin, hc⟩

section

open Pattern

variable {marked : List Char}

/-- At least one character, up to the end of the line. -/
def something : Expr := .plus true (.chars .unbroken)

def plainExpr : Expr := .spelled "import ".toList something

def fromExpr : Expr :=
  .spelled "from ".toList (.cat something (.spelled " import ".toList something))

theorem takes_something : something.Takes marked fun s => s ≠ [] ∧ '\n' ∉ s := by
  have h : something.Takes marked _ := Expr.takes_plus_chars true .unbroken
  simpa only [CharSet.mem_unbroken, List.forall_mem_ne'] using h

/-- A text begins with something unless it is empty or begins with a line feed. -/
theorem exists_eq_append_iff {rest : List Char} :
    (∃ s after, rest = s ++ after ∧ s ≠ [] ∧ '\n' ∉ s) ↔ ∃ c s, rest = c :: s ∧ c ≠ '\n' := by
  constructor
  · rintro ⟨s, after, rfl, hne, hs⟩
    obtain ⟨c, s, rfl⟩ := List.exists_cons_of_ne_nil hne
    exact ⟨c, s ++ after, rfl, fun hc => hs (hc ▸ List.mem_cons_self)⟩
  · rintro ⟨c, s, rfl, hc⟩
    exact ⟨[c], s, rfl, List.cons_ne_nil _ _, by simpa using hc.symm⟩

theorem matchesAt_plainExpr_iff : plainExpr.MatchesAt marked [] line ↔ IsPlain line := by
  rw [plainExpr, (takes_something.spelled _).matchesAt_iff]
  constructor
  · rintro ⟨_, after, rfl, s, rfl, hs⟩
    obtain ⟨c, rest, hrest, hc⟩ := exists_eq_append_iff.1 ⟨s, after, rfl, hs⟩
    exact ⟨c, rest, by rw [List.append_assoc, hrest], hc⟩
  · rintro ⟨c, rest, rfl, hc⟩
    obtain ⟨s, after, hrest, hs⟩ := exists_eq_append_iff.2 ⟨c, rest, rfl, hc⟩
    exact ⟨_, after, by rw [hrest, List.append_assoc], s, rfl, hs⟩

theorem matchesAt_fromExpr_iff : fromExpr.MatchesAt marked [] line ↔ IsFrom line := by
  rw [fromExpr, ((takes_something.cat (takes_something.spelled _)).spelled _).matchesAt_iff]
  constructor
  · rintro ⟨_, after, rfl, _, rfl, origin, _, rfl, ⟨hne, horigin⟩, s, rfl, hs⟩
    obtain ⟨c, rest, hrest, hc⟩ := exists_eq_append_iff.1 ⟨s, after, rfl, hs⟩
    exact ⟨origin, c, rest, by simp only [List.append_assoc, hrest], hne, horigin, hc⟩
  · rintro ⟨origin, c, rest, rfl, hne, horigin, hc⟩
    obtain ⟨s, after, hrest, hs⟩ := exists_eq_append_iff.2 ⟨c, rest, rfl, hc⟩
    exact ⟨_, after, by simp only [List.append_assoc, hrest], _, rfl, origin, _, rfl,
      ⟨hne, horigin⟩, s, rfl, hs⟩

end

/-! ### The two styles -/

def plainStyle : Style :=
  ⟨"python-import", ["py"], "import .+",
    ⟨false, plainExpr.anchored.program Style.moduleGroup.toList⟩, .pythonImport⟩

def fromStyle : Style :=
  ⟨"python-from-import", ["py"], "from .+ import .+",
    ⟨false, fromExpr.anchored.program Style.moduleGroup.toList⟩, .pythonFromImport⟩

theorem styles_python : Language.python.styles = [plainStyle, fromStyle] := rfl

theorem isMatch_plainStyle_iff {line : String} : plainStyle.isMatch line ↔ IsPlain line.toList :=
  (Style.isMatch_iff_of_program rfl line).trans matchesAt_plainExpr_iff

theorem isMatch_fromStyle_iff {line : String} : fromStyle.isMatch line ↔ IsFrom line.toList :=
  (Style.isMatch_iff_of_program rfl line).trans matchesAt_fromExpr_iff

/-- The styles of the language that match a line. -/
def matching (line : String) : List Style := Language.python.styles.filter (·.isMatch line)

section

variable {line : String}

theorem matching_of_isPlain (h : IsPlain line.toList) : matching line = [plainStyle] := by
  simp [matching, styles_python, isMatch_plainStyle_iff, isMatch_fromStyle_iff, h,
    not_isFrom_of_isPlain h]

theorem matching_of_isFrom (h : IsFrom line.toList) : matching line = [fromStyle] := by
  have hplain : ¬ IsPlain line.toList := fun hplain => not_isFrom_of_isPlain hplain h
  simp [matching, styles_python, isMatch_plainStyle_iff, isMatch_fromStyle_iff, h, hplain]

theorem matching_of_not (hplain : ¬ IsPlain line.toList) (hfrom : ¬ IsFrom line.toList) :
    matching line = [] := by
  simp [matching, styles_python, isMatch_plainStyle_iff, isMatch_fromStyle_iff, hplain, hfrom]

theorem length_matching_le_one (line : String) : (matching line).length ≤ 1 := by
  by_cases hplain : IsPlain line.toList
  · rw [matching_of_isPlain hplain, List.length_singleton]
  · by_cases hfrom : IsFrom line.toList
    · rw [matching_of_isFrom hfrom, List.length_singleton]
    · rw [matching_of_not hplain hfrom]
      exact Nat.zero_le 1

end

end ImportWeb.Python
