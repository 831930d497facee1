import Mathlib.Data.List.Basic
import ImportWeb.Proofs.Style.Capture
import ImportWeb.Style.Registry

/-!
Quoted includes. The pattern of the C style is the shape of an include from the start of the line:
the mark and the keyword with blanks around them, and a text between quotes. A line has this shape
in one way at most, so the text that is captured is the one between the first two quotes, and a line
with anything else before the mark or in front of the quote has no import.
-/

namespace ImportWeb

open Text Pattern

/-- What an include is written with. -/
structure Include where
  lead : List Char
  middle : List Char
  gap : List Char
  /-- The text between the quotes. -/
  module : List Char
  rest : List Char
  lead_blank : AllBlank lead
  middle_blank : AllBlank middle
  gap_blank : AllBlank gap
  gap_ne_nil : gap ≠ []
  module_ne_nil : module ≠ []
  module_unquoted : '"' ∉ module

namespace Include

/-! ### One way to write a line -/

/-- The line up to the text between the quotes. -/
def opening (i : Include) : List Char :=
  i.lead ++ '#' :: (i.middle ++ ("include".toList ++ (i.gap ++ ['"'])))

def line (i : Include) : List Char := i.opening ++ (i.module ++ '"' :: i.rest)

theorem line_eq (i : Include) : i.line = i.lead ++ '#' :: (i.middle ++ ("include".toList ++
    (i.gap ++ '"' :: (i.module ++ '"' :: i.rest)))) := by
  simp [line, opening]

variable {lead middle gap more : List Char} {c : Char}

/-- Blanks end where a character that is none begins the rest. -/
theorem blanks_append_inj {gap' s s' : List Char} {d : Char} (hgap : AllBlank gap)
    (hgap' : AllBlank gap') (hc : isBlank c = false) (hd : isBlank d = false)
    (h : gap ++ c :: s = gap' ++ d :: s') : gap = gap' ∧ c = d ∧ s = s' := by
  obtain ⟨hgaps, hrests⟩ := run_append_inj hgap hgap' (by simpa using hc) (by simpa using hd) h
  obtain ⟨hcd, hs⟩ := List.cons.inj hrests
  exact ⟨hgaps, hcd, hs⟩

/-- What stands before and behind the mark. -/
theorem mark_of_line (i : Include) (hlead : AllBlank lead) (hc : isBlank c = false)
    (h : i.line = lead ++ c :: more) : i.lead = lead ∧ '#' = c ∧
      i.middle ++ ("include".toList ++ (i.gap ++ '"' :: (i.module ++ '"' :: i.rest))) = more := by
  rw [line_eq] at h
  exact blanks_append_inj i.lead_blank hlead (by decide) hc h

/-- What stands before and behind the first quote. -/
theorem quote_of_line (i : Include) (hlead : AllBlank lead) (hmiddle : AllBlank middle)
    (hgap : AllBlank gap) (hc : isBlank c = false)
    (h : i.line = lead ++ '#' :: (middle ++ ("include".toList ++ (gap ++ c :: more)))) :
    i.lead = lead ∧ i.middle = middle ∧ i.gap = gap ∧ '"' = c ∧
      i.module ++ '"' :: i.rest = more := by
  obtain ⟨hleads, -, h⟩ := i.mark_of_line hlead (by decide) h
  obtain ⟨hmiddles, -, h⟩ := blanks_append_inj i.middle_blank hmiddle (by decide) (by decide) h
  have hwords := List.append_cancel_left h
  obtain ⟨hgaps, hquote, hmore⟩ := blanks_append_inj i.gap_blank hgap (by decide) hc hwords
  exact ⟨hleads, hmiddles, hgaps, hquote, hmore⟩

/-- A line is written as an include in one way at most. -/
theorem line_inj {i j : Include} (h : i.line = j.line) : i = j := by
  obtain ⟨hlead, hmiddle, hgap, -, hmodules⟩ :=
    i.quote_of_line j.lead_blank j.middle_blank j.gap_blank (by decide) (h.trans j.line_eq)
  have hunquoted (k : Include) : ∀ c ∈ k.module, (c != '"') = true := fun c hc =>
    bne_iff_ne.2 (ne_of_mem_of_not_mem hc k.module_unquoted)
  obtain ⟨hmodule, hrests⟩ :=
    run_append_inj (hunquoted i) (hunquoted j) (by simp) (by simp) hmodules
  have hrest := (List.cons.inj hrests).2
  cases i
  cases j
  simp_all

/-! ### The pattern -/

/-- Blanks, if any. -/
def spaces : Expr := .star true (.chars .blank)

/-- The captured text and the quote behind it. -/
def quoted : Expr :=
  .cat (.group (some Style.moduleGroup.toList) (.plus true (.chars (.allBut '"'))))
    (.chars (.single '"'.toNat))

def expr : Expr :=
  .cat spaces (.spelled ['#'] (.cat spaces (.spelled "include".toList
    (.cat (.plus true (.chars .blank)) (.spelled ['"'] quoted)))))

def style : Style :=
  ⟨"c-include", ["c", "cc", "cpp", "h", "hpp"], "\\s*#\\s*include\\s+\"(?P<module>[^\"]+)\"",
    ⟨true, expr.anchored.program Style.moduleGroup.toList⟩, .capture .slashed⟩

theorem styles_c : Language.c.styles = [style] := rfl

/-- The pattern takes the line up to the second quote and captures what is between the two. -/
theorem captures_expr : expr.Captures Style.moduleGroup.toList fun before text behind =>
    ∃ i : Include, before = i.opening ∧ text = i.module ∧ behind = ['"'] := by
  have hspaces : spaces.Takes Style.moduleGroup.toList AllBlank := by
    have hstar : spaces.Takes Style.moduleGroup.toList _ := Expr.takes_star_chars true .blank
    simp only [CharSet.mem_blank] at hstar
    exact hstar
  have hgap : (Expr.plus true (.chars .blank)).Takes Style.moduleGroup.toList _ :=
    Expr.takes_plus_chars true .blank
  have hmodule : (Expr.plus true (.chars (.allBut '"'))).Takes Style.moduleGroup.toList _ :=
    Expr.takes_plus_chars true (.allBut '"')
  have hquoted := hmodule.group.cat (Expr.takes_chars (.single '"'.toNat))
  have hkeyword := (hgap.cat_captures (hquoted.spelled ['"'])).spelled "include".toList
  refine (hspaces.cat_captures ((hspaces.cat_captures hkeyword).spelled ['#'])).congr
    fun before text behind => ?_
  simp only [CharSet.mem_blank, CharSet.mem_allBut (by decide : '"'.toNat ≠ 0),
    CharSet.mem_single]
  constructor
  · rintro ⟨lead, _, rfl, hlead, _, rfl, middle, _, rfl, hmiddle, _, rfl, gap, _, rfl, ⟨hne, hgap⟩,
      _, rfl, _, _, rfl, ⟨rfl, ⟨hmodule, hunquoted⟩, rfl⟩, _, rfl, rfl⟩
    exact ⟨⟨lead, middle, gap, text, [], hlead, hmiddle, hgap, hne, hmodule,
      fun hmem => hunquoted _ hmem rfl⟩, rfl, rfl, rfl⟩
  · rintro ⟨i, rfl, rfl, rfl⟩
    have hunquoted : ∀ c ∈ i.module, c ≠ '"' := fun c hc =>
      ne_of_mem_of_not_mem hc i.module_unquoted
    exact ⟨i.lead, _, rfl, i.lead_blank, _, rfl, i.middle, _, rfl, i.middle_blank, _, rfl, i.gap, _,
      rfl, ⟨i.gap_ne_nil, i.gap_blank⟩, _, rfl, [], ['"'], rfl,
      ⟨rfl, ⟨i.module_ne_nil, hunquoted⟩, rfl⟩, _, rfl, rfl⟩

variable {line : String}

theorem isMatch_style_iff : style.isMatch line = true ↔ ∃ i : Include, i.line = line.toList := by
  rw [Style.isMatch_iff_of_program rfl, captures_expr.matchesAt_iff]
  constructor
  · rintro ⟨_, _, _, rest, hline, i, rfl, rfl, rfl⟩
    exact ⟨{ i with rest := rest }, hline.symm⟩
  · rintro ⟨i, hline⟩
    exact ⟨_, _, _, i.rest, hline.symm, i, rfl, rfl, rfl⟩

theorem captured?_style {i : Include} (h : i.line = line.toList) :
    style.pattern.captured? line.toList = some i.module := by
  have hmatch : style.isMatch line = true := isMatch_style_iff.2 ⟨i, h⟩
  obtain ⟨_, _, _, rest, hline, ⟨j, rfl, rfl, rfl⟩, hcaptured⟩ :=
    Style.exists_captured rfl captures_expr hmatch
  have hsame : i = { j with rest := rest } := line_inj (h.trans hline)
  rw [hcaptured, hsame]

/-! ### What a line includes -/

theorem importsOn_style {i : Include} (h : i.line = line.toList) (disk : Disk) (source : Path) :
    style.importsOn disk source line = if AllBlank i.module then []
      else [Layout.slashed.resolve disk source (String.ofList (trim i.module))] := by
  have hcaptured := captured?_style h
  split
  case isTrue hblank =>
    refine Style.importsOn_of_not_captured rfl fun text htext => ?_
    rw [hcaptured] at htext
    exact Option.some.inj htext ▸ hblank
  case isFalse hink => exact Style.importsOn_of_captured rfl hcaptured hink

theorem importsOn_of_ne (h : ∀ i : Include, i.line ≠ line.toList) (disk : Disk) (source : Path) :
    style.isMatch line = false ∧ style.importsOn disk source line = [] := by
  have hmatch : ¬ style.isMatch line = true := fun hmatch => by
    obtain ⟨i, hi⟩ := isMatch_style_iff.1 hmatch
    exact h i hi
  exact ⟨eq_false_of_ne_true hmatch, Style.importsOn_of_not_isMatch rfl hmatch⟩

/-- The style of C matches exactly the lines that are written as an include, which a line is in one
way at most, and finds the text between the quotes unless it is blank. A line that begins with
anything but the mark, blanks aside, and one with anything but a quote behind the keyword have no
import. -/
theorem importsOn_include (disk : Disk) (source : Path) (line : String) :
    Language.c.styles = [style] ∧
    (style.isMatch line = true ↔ ∃ i : Include, i.line = line.toList) ∧
    (∀ i : Include, i.line = line.toList →
      (∀ j : Include, j.line = line.toList → j = i) ∧
      style.importsOn disk source line = if AllBlank i.module then []
        else [Layout.slashed.resolve disk source (String.ofList (trim i.module))]) ∧
    ((∀ i : Include, i.line ≠ line.toList) → style.importsOn disk source line = []) ∧
    (∀ lead c more, line.toList = lead ++ c :: more → AllBlank lead → isBlank c = false → c ≠ '#' →
      style.isMatch line = false ∧ style.importsOn disk source line = []) ∧
    ∀ lead middle gap c more, line.toList =
        lead ++ '#' :: (middle ++ ("include".toList ++ (gap ++ c :: more))) →
      AllBlank lead → AllBlank middle → AllBlank gap → isBlank c = false → c ≠ '"' →
        style.isMatch line = false ∧ style.importsOn disk source line = [] := by
  refine ⟨styles_c, isMatch_style_iff, fun i hi => ⟨fun j hj => line_inj (hj.trans hi.symm),
    importsOn_style hi disk source⟩, fun h => (importsOn_of_ne h disk source).2, ?_, ?_⟩
  · intro lead c more hline hlead hc hmark
    refine importsOn_of_ne (fun i hi => ?_) disk source
    obtain ⟨-, hsame, -⟩ := i.mark_of_line hlead hc (hi.trans hline)
    exact hmark hsame.symm
  · intro lead middle gap c more hline hlead hmiddle hgap hc hquote
    refine importsOn_of_ne (fun i hi => ?_) disk source
    obtain ⟨-, -, -, hsame, -⟩ := i.quote_of_line hlead hmiddle hgap hc (hi.trans hline)
    exact hquote hsame.symm

/-- Blanks of three kinds and a second text in quotes, a text of blanks, an include in a comment, and
one in angle brackets. -/
theorem importsOn_include_spaced :
    let disk : Disk :=
      ⟨[(["p".toList], .directory), (["p".toList, "a.h".toList], .file .empty)], []⟩
    let source := Path.ofString "/p/a.c"
    style.importsOn disk source " #\u00a0include\t\" a.h \" // \"b.h\"" =
        [.file (.ofString "/p/a.h")] ∧
      style.importsOn disk source "#include \" \"" = [] ∧
      style.isMatch "// #include \"a.h\"" = false ∧
      style.isMatch "#include <a.h> \"a.h\"" = false := by
  intro disk source
  obtain ⟨spaced, hline, hmodule⟩ : ∃ i : Include,
      i.line = " #\u00a0include\t\" a.h \" // \"b.h\"".toList ∧ i.module = " a.h ".toList :=
    ⟨⟨[' '], ['\u00a0'], ['\t'], " a.h ".toList, " // \"b.h\"".toList, by simp [AllBlank, isBlank],
      by simp [AllBlank, isBlank], by simp [AllBlank, isBlank], by decide, by decide, by decide⟩,
      by decide, rfl⟩
  obtain ⟨blank, hline', hmodule'⟩ : ∃ i : Include,
      i.line = "#include \" \"".toList ∧ i.module = [' '] :=
    ⟨⟨[], [], [' '], [' '], [], by simp [AllBlank], by simp [AllBlank], by simp [AllBlank, isBlank],
      by decide, by decide, by decide⟩, by decide, rfl⟩
  have hspaced := ((importsOn_include disk source _).2.2.1 spaced hline).2
  have hblank := ((importsOn_include disk source _).2.2.1 blank hline').2
  have hcomment := (importsOn_include disk source "// #include \"a.h\"").2.2.2.2.1 [] '/'
    "/ #include \"a.h\"".toList rfl (by simp [AllBlank]) (by decide) (by decide)
  have hangle := (importsOn_include disk source "#include <a.h> \"a.h\"").2.2.2.2.2 [] [] [' '] '<'
    "a.h> \"a.h\"".toList rfl (by simp [AllBlank]) (by simp [AllBlank])
    (by simp [AllBlank, isBlank]) (by decide) (by decide)
  have hfile : Layout.slashed.resolve disk source (String.ofList (trim " a.h ".toList)) =
      .file (.ofString "/p/a.h") := by decide +kernel
  rw [hmodule, if_neg (by simp [AllBlank]; decide), hfile] at hspaced
  rw [hmodule', if_pos (by simp [AllBlank, isBlank])] at hblank
  exact ⟨hspaced, hblank, hcomment.1, hangle.1⟩

end Include

end ImportWeb
