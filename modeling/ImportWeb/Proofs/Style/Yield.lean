import ImportWeb.Proofs.Style.Include
import ImportWeb.Proofs.Style.Python.Line
import ImportWeb.Proofs.Style.Registration
import ImportWeb.Style.Entry

/-!
What a matching line yields. An import stands for a token and is told apart by the disk alone. A
line that a style matches need not have a token, for the rules pass over what is empty: the items of
a plain import may all be blank, and so may a captured text.
-/

namespace ImportWeb

open Text Pattern

/-! ### What an import stands for -/

/-- An import is the candidate of a token if that is a file, and keeps the token otherwise. -/
def Layout.Classifies (layout : Layout) (disk : Disk) (source : Path) (token : String)
    (i : Import) : Prop :=
  (∀ p, i = .file p ↔ layout.candidate? source token = some p ∧ disk.isFile p = true) ∧
    ∀ name, i = .external name → name = trimmed token

theorem Layout.classifies_resolve (layout : Layout) (disk : Disk) (source : Path)
    (token : String) : layout.Classifies disk source token (layout.resolve disk source token) := by
  unfold Classifies resolve
  cases hcandidate : layout.candidate? source token with
  | none => exact ⟨by simp, fun name h => (Import.external.inj h).symm⟩
  | some p =>
    dsimp only
    split
    case isTrue hfile =>
      refine ⟨fun q => ⟨fun h => ?_, fun h => congrArg _ (Option.some.inj h.1)⟩, by simp⟩
      obtain rfl := Import.file.inj h
      exact ⟨rfl, hfile⟩
    case isFalse hfile =>
      refine ⟨fun q => ⟨by simp, fun h => ?_⟩, fun name h => (Import.external.inj h).symm⟩
      exact absurd (Option.some.inj h.1 ▸ h.2) hfile

/-! ### Tokens of Python's lines -/

namespace Python

variable {line : List Char}

theorem listed_eq_nil_iff {text : List Char} :
    listed text = [] ↔ ∀ c ∈ text, isBlank c = true ∨ c = ',' := by
  rw [← forall_mem_splitAtChar_iff, listed, List.filterMap_eq_nil_iff]
  simp only [List.head?_eq_none_iff, words_eq_nil_iff]

theorem importTokens_eq_nil_iff (h : IsPlain (before '#' line)) :
    importTokens line = [] ↔
      ∀ c ∈ (before '#' line).drop "import ".length, isBlank c = true ∨ c = ',' := by
  obtain ⟨c, rest, hcode, -⟩ := h
  have hmark : '#' ∉ c :: rest := fun hmem => by
    have hcodeMark := stop_not_mem_before '#' line
    rw [hcode] at hcodeMark
    exact hcodeMark (List.mem_append_right _ hmem)
  rw [← importTokens_before, hcode, importTokens_import, before_of_not_mem hmark,
    listed_eq_nil_iff]
  rfl

/-- The second keyword is a word at least. -/
theorem exists_fromTokens (h : IsFrom (before '#' line)) : ∃ module, fromTokens line = [module] := by
  obtain ⟨origin, c, rest, hcode, -⟩ := h
  have hwords : words (origin ++ (" import ".toList ++ c :: rest)) ≠ [] := by
    intro hnil
    have hi := words_eq_nil_iff.1 hnil 'i' (by simp)
    simp [isBlank] at hi
  obtain ⟨module, more, hmodule⟩ := List.exists_cons_of_ne_nil hwords
  refine ⟨module, ?_⟩
  rw [fromTokens, hcode, words_from, hmodule]
  rfl

end Python

/-! ### Styles on offer -/

/-- The styles that a registry can have: the built-in ones, and those that are written down. -/
inductive Offered : Style → Prop
  | plain : Offered Python.plainStyle
  | names : Offered Python.fromStyle
  | quoted : Offered Include.style
  | written {e : StyleEntry} {s : Style} (h : e.style = .ok s) : Offered s

theorem mem_replaceOrAppend {languages : List Language} {k l : Language}
    (h : k ∈ Registry.replaceOrAppend l languages) : k = l ∨ k ∈ languages := by
  induction languages with
  | nil => exact .inl (List.mem_singleton.1 h)
  | cons first rest ih =>
    rw [Registry.replaceOrAppend] at h
    split at h
    case isTrue => exact (List.mem_cons.1 h).imp_right (List.mem_cons_of_mem _)
    case isFalse =>
      rcases List.mem_cons.1 h with rfl | h
      · exact .inr List.mem_cons_self
      · exact (ih h).imp_right (List.mem_cons_of_mem _)

/-- A registry has nothing but such styles. -/
def Registry.Offers (r : Registry) : Prop := ∀ l ∈ r.languages, ∀ s ∈ l.styles, Offered s

theorem Registry.offers_builtin : builtin.Offers := by
  intro l hl s hs
  obtain rfl | rfl : l = .python ∨ l = .c := by simpa [builtin] using hl
  · rw [Python.styles_python, List.mem_cons, List.mem_singleton] at hs
    obtain rfl | rfl := hs
    · exact .plain
    · exact .names
  · rw [Include.styles_c, List.mem_singleton] at hs
    exact hs ▸ .quoted

theorem Registry.Offers.register {r : Registry} (h : r.Offers) {l : Language}
    (hl : ∀ s ∈ l.styles, Offered s) : (r.register l).Offers := fun _ hk =>
  (mem_replaceOrAppend hk).elim (fun heq => heq ▸ hl) (h _)

theorem Registry.offers_withLanguages {added : List Language}
    (hadded : ∀ l ∈ added, ∀ s ∈ l.styles, Offered s) : (withLanguages added).Offers := by
  have hrun (r : Registry) (h : r.Offers) : (added.foldl Registry.register r).Offers := by
    induction added generalizing r with
    | nil => exact h
    | cons l rest ih =>
      obtain ⟨hl, hrest⟩ := List.forall_mem_cons.1 hadded
      exact ih hrest _ (h.register hl)
  exact hrun builtin offers_builtin

/-- A style that is written down captures and is compiled from its pattern. -/
theorem StyleEntry.style_eq_ok {e : StyleEntry} {s : Style} (h : e.style = .ok s) :
    s.rule = .capture e.layout ∧
      Pattern.compile? Style.moduleGroup (Style.anchored s.source) = some s.pattern := by
  unfold StyleEntry.style at h
  split at h
  case isTrue => cases h
  case isFalse =>
    obtain ⟨-, hcompile, -, hs⟩ := Style.make_eq_ok_iff.1 h
    rw [hs]
    exact ⟨rfl, hcompile⟩

/-- The program of a style that captures is that of its pattern. -/
theorem Offered.exists_expr {s : Style} {layout : Layout} (h : Offered s)
    (hrule : s.rule = .capture layout) :
    ∃ e, Expr.ofText? (Style.anchored s.source) = some e ∧
      s.pattern.program = e.program Style.moduleGroup.toList := by
  cases h with
  | plain => cases hrule
  | names => cases hrule
  | quoted => exact ⟨Include.expr.anchored, rfl, rfl⟩
  | written hs =>
    obtain ⟨e, he, hpattern⟩ := Option.bind_eq_some_iff.1 (StyleEntry.style_eq_ok hs).2
    rw [← Option.some.inj hpattern]
    exact ⟨e, he, rfl⟩

/-! ### Lines with and without an import -/

/-- The text between two marks, if both are set. -/
def Pattern.Marks.text? (m : Marks) (line : List Char) : Option (List Char) := do
  let opened ← m.opened
  let closed ← m.closed
  return (line.drop opened).take (closed - opened)

namespace Style

variable {s : Style} {layout : Layout} {e : Expr} {line : String}

/-- What is captured on a line is what one of the matches marks. -/
theorem exists_matches_of_isMatch (h : s.pattern.program = e.program moduleGroup.toList)
    (hmatch : s.isMatch line = true) :
    ∃ before rest q m, line.toList = before ++ rest ∧
      e.Matches moduleGroup.toList (.between before rest) ⟨none, none⟩ q m ∧
      s.pattern.captured? line.toList = m.text? line.toList := by
  obtain ⟨m, hsearch⟩ := Option.isSome_iff_exists.1 hmatch
  have hcaptured : s.pattern.captured? line.toList = m.text? line.toList := by
    rw [Pattern.captured?, hsearch]
    rfl
  rw [h] at hsearch
  obtain ⟨before, rest, hline, q, hmatches⟩ := exists_matches_of_search hsearch
  exact ⟨before, rest, q, m, hline, hmatches, hcaptured⟩

end Style

namespace Offered

variable {s : Style} {line : String}

/-- An import of names has a module before the second keyword. -/
theorem exists_import_of_names (h : Offered s) (hrule : s.rule = .pythonFromImport)
    (hcode : s.isMatch (String.ofList (before '#' line.toList)) = true) (disk : Disk)
    (source : Path) : ∃ i, s.importsOn disk source line = [i] := by
  cases h with
  | plain => cases hrule
  | names =>
    have hform := Python.isMatch_fromStyle_iff.1 hcode
    rw [String.toList_ofList] at hform
    obtain ⟨module, hmodule⟩ := Python.exists_fromTokens hform
    exact ⟨_, by rw [Python.importsOn_fromStyle, hmodule, List.map_singleton]⟩
  | quoted => cases hrule
  | written hs =>
    rw [(StyleEntry.style_eq_ok hs).1] at hrule
    cases hrule

/-- A plain import has a module unless its items are blank. -/
theorem importsOn_eq_nil_iff (h : Offered s) (hrule : s.rule = .pythonImport)
    (hcode : s.isMatch (String.ofList (before '#' line.toList)) = true) (disk : Disk)
    (source : Path) : s.importsOn disk source line = [] ↔
      ∀ c ∈ (before '#' line.toList).drop "import ".length, isBlank c = true ∨ c = ',' := by
  cases h with
  | plain =>
    have hform := Python.isMatch_plainStyle_iff.1 hcode
    rw [String.toList_ofList] at hform
    rw [Python.importsOn_plainStyle, List.map_eq_nil_iff, Python.importTokens_eq_nil_iff hform]
  | names => cases hrule
  | quoted => cases hrule
  | written hs =>
    rw [(StyleEntry.style_eq_ok hs).1] at hrule
    cases hrule

/-- A capture has the module that a match of the pattern marks, unless that is blank. -/
theorem exists_matches_of_capture (h : Offered s) {layout : Layout}
    (hrule : s.rule = .capture layout) (hmatch : s.isMatch line = true) (disk : Disk)
    (source : Path) :
    ∃ e before rest q m, Expr.ofText? (Style.anchored s.source) = some e ∧
      line.toList = before ++ rest ∧
      e.Matches Style.moduleGroup.toList (.between before rest) ⟨none, none⟩ q m ∧
      (∀ text, m.text? line.toList = some text → ¬ AllBlank text →
        s.importsOn disk source line = [layout.resolve disk source (String.ofList (trim text))]) ∧
      ((∀ text, m.text? line.toList = some text → AllBlank text) →
        s.importsOn disk source line = []) := by
  obtain ⟨e, he, hprogram⟩ := h.exists_expr hrule
  obtain ⟨before, rest, q, m, hline, hmatches, hcaptured⟩ :=
    Style.exists_matches_of_isMatch hprogram hmatch
  refine ⟨e, before, rest, q, m, he, hline, hmatches, ?_, ?_⟩
  · intro text htext hink
    exact Style.importsOn_of_captured hrule (hcaptured.trans htext) hink
  · intro hblank
    refine Style.importsOn_of_not_captured hrule fun text htext => hblank text ?_
    rw [← hcaptured, htext]

end Offered

namespace Registry

/-- On a line that a style of a registry matches, each import stands for a token. If the line
matches without its comment, an import of names has one module, and a plain import has some unless
its items are all blank; a capture has the one that its match marks, unless that is blank. -/
theorem yields_on_match {added : List Language}
    (hadded : ∀ l ∈ added, ∀ s ∈ l.styles, Offered s) (disk : Disk) (source : Path) {s : Style}
    (hs : s ∈ (withLanguages added).styles) {line : String} (hmatch : s.isMatch line = true) :
    List.Forall₂ (s.layout.Classifies disk source) (s.tokens line)
        (s.importsOn disk source line) ∧
      (s.rule = .pythonFromImport →
        s.isMatch (String.ofList (before '#' line.toList)) = true →
          ∃ i, s.importsOn disk source line = [i]) ∧
      (s.rule = .pythonImport → s.isMatch (String.ofList (before '#' line.toList)) = true →
        (s.importsOn disk source line = [] ↔
          ∀ c ∈ (before '#' line.toList).drop "import ".length, isBlank c = true ∨ c = ',')) ∧
      ∀ layout, s.rule = .capture layout →
        ∃ e before rest q m, Expr.ofText? (Style.anchored s.source) = some e ∧
          line.toList = before ++ rest ∧
          e.Matches Style.moduleGroup.toList (.between before rest) ⟨none, none⟩ q m ∧
          (∀ text, m.text? line.toList = some text → ¬ AllBlank text →
            s.importsOn disk source line =
              [layout.resolve disk source (String.ofList (trim text))]) ∧
          ((∀ text, m.text? line.toList = some text → AllBlank text) →
            s.importsOn disk source line = []) := by
  obtain ⟨l, hl, hs⟩ := List.mem_flatMap.1 hs
  have hoffered := offers_withLanguages hadded l hl s hs
  have htokens : List.Forall₂ (s.layout.Classifies disk source) (s.tokens line)
      (s.importsOn disk source line) := by
    rw [Style.importsOn, List.forall₂_map_right_iff, List.forall₂_same]
    exact fun token _ => s.layout.classifies_resolve disk source token
  exact ⟨htokens, fun hrule hcode => hoffered.exists_import_of_names hrule hcode disk source,
    fun hrule hcode => hoffered.importsOn_eq_nil_iff hrule hcode disk source,
    fun _ hrule => hoffered.exists_matches_of_capture hrule hmatch disk source⟩

/-- A module of a style that a user has written, a plain import of an empty item, whose comment does
not count, and an import of names. -/
theorem yields_on_match_lua :
    let disk := Disk.empty []
    let source := Path.ofString "/p/main"
    ∃ s, StyleEntry.style
        ⟨"lua", none, ["lua"], "require \"(?P<module>[^\"]*)\"", ".", none, "lua", none⟩ = .ok s ∧
      (∃ i, s.importsOn disk source "require \"util\"" = [i] ∧
        s.layout.Classifies disk source "util" i) ∧
      Python.plainStyle.importsOn disk source "import ,#a" = [] ∧
      ∃ i, Python.fromStyle.importsOn disk source "from .b import c # d" = [i] := by
  intro disk source
  obtain ⟨s, hs, hmatch, htokens⟩ : ∃ s, StyleEntry.style
      ⟨"lua", none, ["lua"], "require \"(?P<module>[^\"]*)\"", ".", none, "lua", none⟩ = .ok s ∧
      s.isMatch "require \"util\"" = true ∧ s.tokens "require \"util\"" = ["util"] := by
    rw [StyleEntry.style, if_neg (by decide)]
    exact ⟨_, rfl, by decide +kernel, by decide +kernel⟩
  have hadded : ∀ l ∈ [Language.mk "lua" [s]], ∀ t ∈ l.styles, Offered t := by
    simpa using Offered.written hs
  have hstyles : (withLanguages [⟨"lua", [s]⟩]).styles =
      [Python.plainStyle, Python.fromStyle, Include.style, s] := rfl
  obtain ⟨hlua, -⟩ := yields_on_match hadded disk source (by simp [hstyles]) hmatch
  obtain ⟨-, -, hplain, -⟩ := yields_on_match hadded disk source (by simp [hstyles])
    (by decide +kernel : Python.plainStyle.isMatch "import ,#a" = true)
  obtain ⟨-, hnames, -⟩ := yields_on_match hadded disk source (by simp [hstyles])
    (by decide +kernel : Python.fromStyle.isMatch "from .b import c # d" = true)
  refine ⟨s, hs, ?_, (hplain rfl (by decide +kernel)).2 ?_, hnames rfl (by decide +kernel)⟩
  · rw [htokens] at hlua
    obtain ⟨i, rest, hi, hrest, himports⟩ := List.forall₂_cons_left_iff.1 hlua
    rw [List.forall₂_nil_left_iff.1 hrest] at himports
    exact ⟨i, himports, hi⟩
  · have hcode : (before '#' "import ,#a".toList).drop "import ".length = [','] := by decide
    rw [hcode]
    simp

/-- A text of blanks between the quotes, and a list of an empty item. -/
theorem matches_without_import :
    Include.style ∈ builtin.styles ∧ Python.plainStyle ∈ builtin.styles ∧
      Include.style.isMatch "#include \" \"" = true ∧
      Include.style.importsOn (.empty []) (.ofString "/p/a.c") "#include \" \"" = [] ∧
      Python.plainStyle.isMatch "import ," = true ∧
      Python.plainStyle.importsOn (.empty []) (.ofString "/p/a.py") "import ," = [] := by
  have hstyles : builtin.styles = [Python.plainStyle, Python.fromStyle, Include.style] := rfl
  exact ⟨by simp [hstyles], by simp [hstyles], by decide +kernel, by decide +kernel,
    by decide +kernel, by decide +kernel⟩

end Registry

end ImportWeb
