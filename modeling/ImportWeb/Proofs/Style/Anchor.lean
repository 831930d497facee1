import ImportWeb.Proofs.Pattern.Enclosed
import ImportWeb.Proofs.Pattern.Match
import ImportWeb.Proofs.Style.Selection

/-!
Styles and the start of the line. A style's pattern is put in a group behind the start of the
line. A pattern that is an expression by itself then matches a line exactly where it matches at
the line's first character; but a pattern that closes the group and opens another one is taken
as well, and it matches further right.
-/

namespace ImportWeb

namespace Pattern

/-- What is open around an anchored pattern: the start of the text stands before its group. -/
def anchorGroup : Reader.OpenGroup := ⟨none, .default, [], [.expr (.look .start) 0]⟩

/-- An expression in a group behind the start of the text. -/
def Expr.anchored (e : Expr) : Expr := .cat (.look .start) (.group none e)

/-- After the start and the opening of the group, the pattern itself and the closing parenthesis
are left. -/
theorem read?_anchored (pattern : String) :
    Expr.read? (Style.anchored pattern) = Reader.pattern? (pattern.toList.length + 4)
      (((Reader.State.start pattern.toList).withRest (pattern.toList ++ [')'])).under
        [anchorGroup]) := by
  have hlength : (Style.anchored pattern).length + 1 = pattern.toList.length + 4 + 1 + 1 := by
    simp [Style.anchored]
  rw [Expr.read?, hlength]
  rfl

theorem enclosure_anchored (pattern : String) :
    Reader.Enclosure anchorGroup (.start pattern.toList) (Expr.read? pattern.toList)
      (Expr.read? (pattern.toList ++ [')'])) (Expr.read? (Style.anchored pattern)) := by
  rw [read?_anchored]
  exact Reader.enclosure_pattern? anchorGroup (.parenthesis _) (Nat.lt_succ_self _)
    (Nat.lt_succ_self _) (by simp)

/-- Anchoring takes two levels and the memory of three states. -/
theorem close_anchorGroup (e : Expr) (depth : Nat) :
    (anchorGroup.push (.group none e) (depth + 1)).close = (e.anchored, depth + 2) := by
  have hdeepest : Reader.OpenGroup.deepest [(.look .start, 0), (.group none e, depth + 1)] =
      depth + 1 := Nat.max_eq_right (Nat.zero_le _)
  change (e.anchored, Reader.OpenGroup.deepest [(e.anchored,
    Reader.OpenGroup.deepest [(.look .start, 0), (.group none e, depth + 1)] + 1)]) = _
  rw [hdeepest]
  exact congrArg _ (Nat.max_eq_right (Nat.zero_le _))

theorem size_anchored (e : Expr) : e.anchored.size = e.size + 3 * Expr.stateSize := by
  rw [Expr.anchored, Expr.size, Expr.size, Expr.size]
  omega

/-- A pattern alone, inside its anchor, and what comes of the parenthesis after it. -/
theorem read?_anchored_of_read? {pattern : String} {e : Expr} {depth : Nat}
    (h : Expr.read? pattern.toList = some (e, depth)) :
    Expr.read? (Style.anchored pattern) =
      if (Expr.read? (pattern.toList ++ [')'])).isSome then none
      else some (e.anchored, depth + 2) := by
  have henclosure := enclosure_anchored pattern
  rw [h] at henclosure
  generalize Expr.read? (pattern.toList ++ [')']) = a at henclosure ⊢
  generalize Expr.read? (Style.anchored pattern) = b at henclosure ⊢
  cases henclosure with
  | closed =>
    change some (anchorGroup.push (.group none e) (depth + 1)).close = some (e.anchored, depth + 2)
    rw [close_anchorGroup]
  | swallowed => rfl

theorem closesUnopened_of_read? {pattern : String} (h : Expr.read? pattern.toList = none)
    (hanchored : (Expr.read? (Style.anchored pattern)).isSome) :
    Reader.ClosesUnopened (.start pattern.toList) := by
  have henclosure := enclosure_anchored pattern
  rw [h] at henclosure
  generalize Expr.read? (pattern.toList ++ [')']) = a at henclosure
  generalize Expr.read? (Style.anchored pattern) = b at henclosure hanchored
  cases henclosure with
  | wrong => cases hanchored
  | unopened _ _ h => exact h

/-- An expression behind the start of a text matches there only. -/
theorem Expr.matches_anchored_iff {marked : List Char} {e : Expr} {before rest : List Char}
    {q : Place} {m m' : Marks} :
    e.anchored.Matches marked (.between before rest) m q m' ↔
      before = [] ∧ e.Matches marked (.between before rest) m q m' := by
  constructor
  · intro h
    cases h with
    | cat hstart hgroup =>
      cases hstart with
      | look hstart =>
        refine ⟨by simpa [Look.holds, Place.between] using hstart, ?_⟩
        cases hgroup with
        | unmarked _ h => exact h
  · rintro ⟨rfl, h⟩
    exact .cat (.look rfl) (.unmarked (Option.some_ne_none marked).symm h)

end Pattern

namespace Style

open Pattern

variable {name pattern : String} {extensions : List String} {rule : Rule}

/-- Some extension is left without its dots. -/
def Usable (extensions : List String) : Prop := ∃ x ∈ extensions, normalizeExtension x ≠ ""

theorem usable_iff :
    Usable extensions ↔
      sortedSet ((extensions.map normalizeExtension).filter (· ≠ "")) ≠ [] := by
  have hmem (x : String) :
      x ∈ sortedSet ((extensions.map normalizeExtension).filter (· ≠ "")) ↔
        (∃ e ∈ extensions, normalizeExtension e = x) ∧ x ≠ "" := by
    rw [mem_sortedSet, List.mem_filter, List.mem_map, decide_eq_true_eq]
  constructor
  · rintro ⟨e, he, hne⟩
    exact List.ne_nil_of_mem ((hmem _).2 ⟨⟨e, he, rfl⟩, hne⟩)
  · intro h
    obtain ⟨x, hx⟩ := List.exists_mem_of_ne_nil _ h
    obtain ⟨⟨e, he, rfl⟩, hne⟩ := (hmem x).1 hx
    exact ⟨e, he, hne⟩

/-- A style is made of a usable extension and a pattern that compiles in its anchor. -/
theorem make_eq_ok_iff {s : Style} :
    make name extensions pattern rule = .ok s ↔
      Usable extensions ∧ Pattern.compile? moduleGroup (anchored pattern) = some s.pattern ∧
        (∀ layout, rule = .capture layout → s.pattern.hasGroup = true) ∧
        s = ⟨name, sortedSet ((extensions.map normalizeExtension).filter (· ≠ "")), pattern,
          s.pattern, rule⟩ := by
  rw [usable_iff]
  unfold make
  generalize sortedSet ((extensions.map normalizeExtension).filter (· ≠ "")) = usable
  generalize Pattern.compile? moduleGroup (anchored pattern) = compiled
  constructor
  · intro h
    split at h
    case h_1 => cases h
    case h_2 hne =>
      split at h
      case h_1 => cases h
      case h_2 =>
        split at h
        case isTrue hgroup =>
          cases h
          exact ⟨hne, rfl, fun _ _ => hgroup, rfl⟩
        case isFalse => cases h
      case h_3 hrule =>
        cases h
        exact ⟨hne, rfl, fun layout hlayout => absurd hlayout (hrule layout), rfl⟩
  · obtain ⟨_, _, _, compiled, _⟩ := s
    rintro ⟨hne, rfl, hgroup, hs⟩
    cases hs
    obtain ⟨x, rest, rfl⟩ := List.exists_cons_of_ne_nil hne
    cases rule with
    | pythonImport => rfl
    | pythonFromImport => rfl
    | capture layout => exact if_pos (hgroup layout rfl)

/-- A pattern that is an expression compiles in its anchor if the parenthesis after it closes the
group, and if there is room for the anchor. -/
theorem compile?_anchored_of_read? {e : Expr} {depth : Nat}
    (h : Expr.read? pattern.toList = some (e, depth)) :
    Pattern.compile? moduleGroup (anchored pattern) =
      if ¬ (Expr.read? (pattern.toList ++ [')'])).isSome ∧ depth + 2 ≤ Reader.maxDepth ∧
          e.size + 3 * Expr.stateSize ≤ Expr.maxSize then
        some ⟨e.hasGroup moduleGroup.toList, e.anchored.program moduleGroup.toList⟩
      else none := by
  unfold Pattern.compile? Expr.ofText?
  rw [read?_anchored_of_read? h]
  by_cases hswallowed : (Expr.read? (pattern.toList ++ [')'])).isSome
  · rw [if_pos hswallowed, if_neg fun hroom => hroom.1 hswallowed]
    rfl
  · rw [if_neg hswallowed]
    change (if depth + 2 ≤ _ ∧ e.anchored.size ≤ _ then some e.anchored else none).bind _ = _
    rw [size_anchored]
    by_cases hroom : depth + 2 ≤ Reader.maxDepth ∧ e.size + 3 * Expr.stateSize ≤ Expr.maxSize
    · rw [if_pos hroom, if_pos ⟨hswallowed, hroom⟩]
      rfl
    · rw [if_neg hroom, if_neg fun h => hroom h.2]
      rfl

theorem isMatch_iff_of_program {s : Style} {e : Expr}
    (h : s.pattern.program = e.anchored.program moduleGroup.toList) (line : String) :
    s.isMatch line ↔ e.MatchesAt moduleGroup.toList [] line.toList := by
  unfold Style.isMatch Pattern.isMatch
  rw [h, isSome_search_program_iff]
  constructor
  · rintro ⟨before, rest, hline, q, m, hmatch⟩
    obtain ⟨rfl, hmatch⟩ := Expr.matches_anchored_iff.1 hmatch
    exact ⟨q, m, hline ▸ hmatch⟩
  · rintro ⟨q, m, hmatch⟩
    exact ⟨[], line.toList, rfl, q, m, Expr.matches_anchored_iff.2 ⟨rfl, hmatch⟩⟩

theorem exists_matches_of_captured? {p : Pattern} {e : Expr}
    (h : p.program = e.anchored.program moduleGroup.toList) {line text : List Char}
    (hcaptured : p.captured? line = some text) :
    ∃ q opened closed, e.Matches moduleGroup.toList (.between [] line) ⟨none, none⟩ q
      ⟨some opened, some closed⟩ ∧ text = (line.drop opened).take (closed - opened) := by
  unfold Pattern.captured? at hcaptured
  obtain ⟨⟨opened, closed⟩, hsearch, hcaptured⟩ := Option.bind_eq_some_iff.1 hcaptured
  rw [h] at hsearch
  obtain ⟨before, rest, hline, q, hmatch⟩ := exists_matches_of_search hsearch
  obtain ⟨rfl, hmatch⟩ := Expr.matches_anchored_iff.1 hmatch
  cases opened with
  | none => cases hcaptured
  | some opened =>
    cases closed with
    | none => cases hcaptured
    | some closed =>
      cases hcaptured
      exact ⟨q, opened, closed, hline ▸ hmatch, rfl⟩

section

variable {e : Expr} {depth : Nat} {s : Style}

theorem exists_make_iff_of_read? (h : Expr.read? pattern.toList = some (e, depth)) :
    (∃ s, make name extensions pattern rule = .ok s) ↔
      Usable extensions ∧
      (∀ layout, rule = .capture layout → e.hasGroup moduleGroup.toList = true) ∧
      ¬ (Expr.read? (pattern.toList ++ [')'])).isSome ∧ depth + 2 ≤ Reader.maxDepth ∧
      e.size + 3 * Expr.stateSize ≤ Expr.maxSize := by
  simp only [make_eq_ok_iff, compile?_anchored_of_read? h]
  constructor
  · rintro ⟨s, husable, hs, hgroup, -⟩
    split at hs
    case isTrue hroom =>
      rw [← Option.some.inj hs] at hgroup
      exact ⟨husable, hgroup, hroom⟩
    case isFalse => cases hs
  · rintro ⟨husable, hgroup, hroom⟩
    rw [if_pos hroom]
    exact ⟨⟨_, _, _, _, _⟩, husable, rfl, hgroup, rfl⟩

theorem program_of_make (h : Expr.read? pattern.toList = some (e, depth))
    (hs : make name extensions pattern rule = .ok s) :
    s.pattern.program = e.anchored.program moduleGroup.toList := by
  obtain ⟨-, hs, -⟩ := make_eq_ok_iff.1 hs
  rw [compile?_anchored_of_read? h] at hs
  split at hs
  case isTrue => rw [← Option.some.inj hs]
  case isFalse => cases hs

theorem closesUnopened_of_make (h : Expr.read? pattern.toList = none)
    (hs : make name extensions pattern rule = .ok s) :
    Reader.ClosesUnopened (.start pattern.toList) := by
  obtain ⟨-, hs, -⟩ := make_eq_ok_iff.1 hs
  refine closesUnopened_of_read? h ?_
  cases hanchored : Expr.read? (anchored pattern) with
  | none =>
    rw [Pattern.compile?, Expr.ofText?, hanchored] at hs
    cases hs
  | some x => rfl

end

/-- A pattern that is an expression makes a style if the parenthesis after it closes the group and
the estimated size leaves room for the anchor, and the style then matches and captures at the start of a line only;
a pattern that is none makes a style only if it closes a group that it has not opened. -/
theorem make_anchored (name : String) (extensions : List String) (pattern : String) (rule : Rule) :
    (∀ e depth, Expr.read? pattern.toList = some (e, depth) →
      ((∃ s, make name extensions pattern rule = .ok s) ↔
        Usable extensions ∧
        (∀ layout, rule = .capture layout → e.hasGroup moduleGroup.toList = true) ∧
        ¬ (Expr.read? (pattern.toList ++ [')'])).isSome ∧ depth + 2 ≤ Reader.maxDepth ∧
        e.size + 3 * Expr.stateSize ≤ Expr.maxSize) ∧
      ∀ s, make name extensions pattern rule = .ok s → ∀ line : String,
        (s.isMatch line ↔ e.MatchesAt moduleGroup.toList [] line.toList) ∧
        ∀ text, s.pattern.captured? line.toList = some text → ∃ q opened closed,
          e.Matches moduleGroup.toList (.between [] line.toList) ⟨none, none⟩ q
            ⟨some opened, some closed⟩ ∧
          text = (line.toList.drop opened).take (closed - opened)) ∧
    (Expr.read? pattern.toList = none → ∀ s, make name extensions pattern rule = .ok s →
      Reader.ClosesUnopened (.start pattern.toList)) := by
  refine ⟨fun e depth hread => ⟨exists_make_iff_of_read? hread, fun s hs line => ?_⟩,
    fun hread s hs => closesUnopened_of_make hread hs⟩
  have hprogram := program_of_make hread hs
  exact ⟨isMatch_iff_of_program hprogram line, fun text => exists_matches_of_captured? hprogram⟩

/-- A pattern that is an expression, and one that closes the group of its anchor. -/
theorem make_anchored_marks :
    (∃ e depth s, Expr.read? "(?P<module>x+)".toList = some (e, depth) ∧
      make "marks" ["py"] "(?P<module>x+)" (.capture ⟨"/", none, "", none⟩) = .ok s ∧
      e.MatchesAt moduleGroup.toList [] "xx y".toList ∧
      ¬ e.MatchesAt moduleGroup.toList [] "y xx".toList) ∧
    Reader.ClosesUnopened (.start "x)|(?:x".toList) := by
  have hread : Expr.read? "(?P<module>x+)".toList =
      some (.group (some "module".toList) (.plus true (.chars (.single 120))), 2) := rfl
  obtain ⟨s, hs, hstart, hlater⟩ :
      ∃ s, make "marks" ["py"] "(?P<module>x+)" (.capture ⟨"/", none, "", none⟩) = .ok s ∧
        s.isMatch "xx y" = true ∧ s.isMatch "y xx" = false :=
    ⟨_, rfl, by decide +kernel, by decide +kernel⟩
  have hmatch := ((make_anchored "marks" ["py"] "(?P<module>x+)"
    (.capture ⟨"/", none, "", none⟩)).1 _ _ hread).2 s hs
  refine ⟨⟨_, _, s, hread, hs, (hmatch "xx y").1.1 hstart, fun h => ?_⟩, ?_⟩
  · rw [(hmatch "y xx").1.2 h] at hlater
    cases hlater
  · exact (make_anchored "x" ["py"] "x)|(?:x" .pythonImport).2 rfl _ rfl

/-- A pattern that is no expression makes a style, and that matches further right in a line. -/
theorem make_breaking_out :
    Expr.read? "import x)|(?:import .+".toList = none ∧
      ∃ s, make "x" ["py"] "import x)|(?:import .+" .pythonImport = .ok s ∧
        s.isMatch "    import os" = true := by
  refine ⟨rfl, _, rfl, ?_⟩
  decide +kernel

end Style

end ImportWeb
