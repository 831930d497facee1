import ImportWeb.Proofs.Style.Python.Form
import ImportWeb.Proofs.Text.Word

/-!
The modules of Python's import lines. A line that is written out is read back as the modules that it
was written with, whatever blanks, aliases and comment stand beside them. Modules are looked for
before the comment, but whether a line is an import is seen on all of it; so what stands in a
comment can make the text before it an import.
-/

namespace ImportWeb

open Text

/-- What the styles of a language find on a line, one style after the other. -/
def Language.importsOn (l : Language) (disk : Disk) (source : Path) (line : String) :
    List Import :=
  (l.styles.filter (·.isMatch line)).flatMap (·.importsOn disk source line)

namespace Python

variable {line : List Char}

/-! ### The modules of a line -/

/-- The import of a module. -/
def resolved (disk : Disk) (source : Path) : List Char → Import :=
  Layout.python.resolve disk source ∘ String.ofList

/-- The first words of the items of a list. -/
def listed (text : List Char) : List (List Char) :=
  (splitAtChar ',' text).filterMap fun item => (words item).head?

/-- The keyword of a plain import is cut off, and the blank after it does not count. -/
theorem importTokens_import (text : List Char) :
    importTokens ("import ".toList ++ text) = listed (before '#' text) := by
  have hbody : importBody ("import ".toList ++ text) = ' ' :: before '#' text := by
    rw [importBody, before_append (by decide)]
    rfl
  obtain ⟨head, tail, h, hblank⟩ := splitAtChar_cons (by decide : ' ' ≠ ',') (before '#' text)
  rw [importTokens, hbody, hblank, listed, h, List.filterMap_cons, List.filterMap_cons,
    words_cons_blank (by decide)]

theorem words_from (text : List Char) :
    words ("from ".toList ++ text) = "from".toList :: words text := by
  change words ("from".toList ++ ' ' :: text) = _
  rw [words_unbroken_append (by decide) (by simp [isBlank]) (by simp; decide),
    words_cons_blank (by decide)]

section

variable {disk : Disk} {source : Path} {line : String}

theorem importsOn_plainStyle :
    plainStyle.importsOn disk source line =
      (importTokens line.toList).map (resolved disk source) := by
  have htokens : plainStyle.tokens line = (importTokens line.toList).map String.ofList := rfl
  have hlayout : plainStyle.layout = .python := rfl
  rw [Style.importsOn, htokens, hlayout, List.map_map]
  rfl

theorem importsOn_fromStyle :
    fromStyle.importsOn disk source line =
      (fromTokens line.toList).map (resolved disk source) := by
  have htokens : fromStyle.tokens line = (fromTokens line.toList).map String.ofList := rfl
  have hlayout : fromStyle.layout = .python := rfl
  rw [Style.importsOn, htokens, hlayout, List.map_map]
  rfl

theorem importsOn_of_isPlain (h : IsPlain line.toList) :
    Language.python.importsOn disk source line =
      (importTokens line.toList).map (resolved disk source) := by
  change (matching line).flatMap _ = _
  rw [matching_of_isPlain h, List.flatMap_singleton, importsOn_plainStyle]

theorem importsOn_of_isFrom (h : IsFrom line.toList) :
    Language.python.importsOn disk source line =
      (fromTokens line.toList).map (resolved disk source) := by
  change (matching line).flatMap _ = _
  rw [matching_of_isFrom h, List.flatMap_singleton, importsOn_fromStyle]

theorem importsOn_of_not (hplain : ¬ IsPlain line.toList) (hfrom : ¬ IsFrom line.toList) :
    Language.python.importsOn disk source line = [] := by
  change (matching line).flatMap _ = _
  rw [matching_of_not hplain hfrom, List.flatMap_nil]

end

/-! ### Lines written out -/

/-- A module or an alias. -/
structure Token where
  text : List Char
  text_ne_nil : text ≠ []
  text_plain : ∀ c ∈ text, isBlank c = false ∧ c ≠ ',' ∧ c ≠ '#'

/-- Blanks within a line, if any. -/
structure Gap where
  text : List Char
  text_blank : ∀ c ∈ text, isBlank c = true ∧ c ≠ '\n'

/-- What a module is called instead. -/
structure Alias where
  lead : Gap
  middle : Gap
  name : Token
  lead_ne_nil : lead.text ≠ []
  middle_ne_nil : middle.text ≠ []

/-- A module of a plain import with what stands beside it. -/
structure Item where
  lead : Gap
  module : Token
  alias? : Option Alias
  trail : Gap

def Alias.text (a : Alias) : List Char :=
  a.lead.text ++ ("as".toList ++ (a.middle.text ++ a.name.text))

/-- What stands after the module. -/
def Item.ending (i : Item) : List Char := i.alias?.elim [] Alias.text ++ i.trail.text

def Item.text (i : Item) : List Char := i.lead.text ++ (i.module.text ++ i.ending)

/-- The line of a plain import, with a comment at its end if there is one. -/
def plainLine (items : List Item) (comment? : Option (List Char)) : List Char :=
  "import ".toList ++ (joinWith [','] (items.map Item.text) ++ comment?.elim [] ('#' :: ·))

/-- The line of an import of names. -/
def fromLine (module : Token) (names : List Char) : List Char :=
  "from ".toList ++ (module.text ++ (" import ".toList ++ names))

/-- A character that ends nothing: no item, no code before a comment, and no line. -/
def Inert (c : Char) : Prop := c ≠ ',' ∧ c ≠ '#' ∧ c ≠ '\n'

theorem Gap.isBlank (g : Gap) : ∀ c ∈ g.text, isBlank c = true := fun c hc => (g.text_blank c hc).1

theorem Gap.inert (g : Gap) : ∀ c ∈ g.text, Inert c := fun c hc => by
  obtain ⟨hblank, hline⟩ := g.text_blank c hc
  refine ⟨?_, ?_, hline⟩ <;> (rintro rfl; revert hblank; decide)

theorem Token.not_isBlank (t : Token) : ∀ c ∈ t.text, Text.isBlank c = false :=
  fun c hc => (t.text_plain c hc).1

theorem Token.inert (t : Token) : ∀ c ∈ t.text, Inert c := fun c hc => by
  obtain ⟨hblank, hcomma, hmark⟩ := t.text_plain c hc
  refine ⟨hcomma, hmark, ?_⟩
  rintro rfl
  revert hblank
  decide

namespace Item

theorem inert (i : Item) : ∀ c ∈ i.text, Inert c := by
  have halias : ∀ c ∈ i.alias?.elim [] Alias.text, Inert c := by
    cases i.alias? with
    | none => exact List.forall_mem_nil _
    | some a =>
      exact List.forall_mem_append.2 ⟨a.lead.inert, List.forall_mem_append.2 ⟨by simp [Inert],
        List.forall_mem_append.2 ⟨a.middle.inert, a.name.inert⟩⟩⟩
  exact List.forall_mem_append.2 ⟨i.lead.inert, List.forall_mem_append.2 ⟨i.module.inert,
    List.forall_mem_append.2 ⟨halias, i.trail.inert⟩⟩⟩

theorem text_ne_nil (i : Item) : i.text ≠ [] := by
  simp [text, i.module.text_ne_nil]

theorem isBlank_head_ending (i : Item) : ∀ c ∈ i.ending.head?, isBlank c = true := by
  intro c hc
  rw [ending] at hc
  cases halias : i.alias? with
  | none =>
    rw [halias] at hc
    exact i.trail.isBlank c (List.mem_of_mem_head? hc)
  | some a =>
    obtain ⟨d, gap, hgap⟩ := List.exists_cons_of_ne_nil a.lead_ne_nil
    rw [halias] at hc
    simp only [Option.elim_some, Alias.text, hgap, List.cons_append, List.head?_cons,
      Option.mem_some] at hc
    exact a.lead.isBlank c (by simp [hgap, hc])

/-- The first word of an item is its module. -/
theorem head?_words (i : Item) : (words i.text).head? = some i.module.text := by
  rw [text, words_blanks_append i.lead.isBlank,
    words_unbroken_append i.module.text_ne_nil i.module.not_isBlank i.isBlank_head_ending,
    List.head?_cons]

end Item

theorem listed_joinWith {items : List Item} (hne : items ≠ []) :
    listed (joinWith [','] (items.map Item.text)) = items.map (·.module.text) := by
  have hcommas : ∀ text ∈ items.map Item.text, ',' ∉ text :=
    List.forall_mem_map.2 fun i _ hmem => (i.inert _ hmem).1 rfl
  rw [listed, splitAtChar_joinWith (by simpa using hne) hcommas, List.filterMap_map]
  simp [Item.head?_words]

/-- A plain import is read back as its modules. -/
theorem importTokens_plainLine {items : List Item} (hne : items ≠ [])
    (comment? : Option (List Char)) :
    importTokens (plainLine items comment?) = items.map (·.module.text) := by
  have hmarks : '#' ∉ joinWith [','] (items.map Item.text) := by
    refine not_mem_joinWith (by decide) ?_
    exact List.forall_mem_map.2 fun i _ hmem => (i.inert _ hmem).2.1 rfl
  have hcomment : before '#' (comment?.elim [] ('#' :: ·)) = [] := by
    cases comment? with
    | none => rfl
    | some comment => exact before_cons_self '#' comment
  unfold plainLine
  rw [importTokens_import, before_append hmarks, hcomment, List.append_nil, listed_joinWith hne]

theorem fromTokens_fromLine (module : Token) (names : List Char) :
    fromTokens (fromLine module names) = [module.text] := by
  have hmark : '#' ∉ module.text := fun hmem => (module.inert _ hmem).2.1 rfl
  have hcode : before '#' (fromLine module names) =
      "from ".toList ++ (module.text ++ (" import ".toList ++ before '#' names)) := by
    unfold fromLine
    rw [before_append (by decide), before_append hmark, before_append (by decide)]
  rw [fromTokens, hcode, words_from,
    words_unbroken_append module.text_ne_nil module.not_isBlank (by simp; decide)]
  rfl

theorem isPlain_plainLine {items : List Item} (hne : items ≠ []) (comment? : Option (List Char)) :
    IsPlain (plainLine items comment?) := by
  obtain ⟨i, rest, rfl⟩ := List.exists_cons_of_ne_nil hne
  obtain ⟨after, hafter⟩ :
      ∃ after, joinWith [','] ((i :: rest).map Item.text) = i.text ++ after := by
    cases rest with
    | nil => exact ⟨[], (List.append_nil _).symm⟩
    | cons next rest => exact ⟨_, List.append_assoc _ _ _⟩
  obtain ⟨c, s, hs⟩ := List.exists_cons_of_ne_nil i.text_ne_nil
  refine ⟨c, s ++ (after ++ comment?.elim [] ('#' :: ·)), ?_, (i.inert c (by simp [hs])).2.2⟩
  unfold plainLine
  rw [hafter, hs, List.append_assoc, List.cons_append]

theorem isFrom_fromLine (module : Token) {names : List Char} (hne : names ≠ []) (h : '\n' ∉ names) :
    IsFrom (fromLine module names) := by
  obtain ⟨c, rest, rfl⟩ := List.exists_cons_of_ne_nil hne
  exact ⟨module.text, c, rest, rfl, module.text_ne_nil,
    fun hmem => (module.inert _ hmem).2.2 rfl, fun hc => h (hc ▸ List.mem_cons_self)⟩

/-- A style of the name is the only one that matches a line, and it finds these imports. -/
def IsReadBy (disk : Disk) (source : Path) (name : String) (line : List Char)
    (imports : List Import) : Prop :=
  ∃ style, matching (String.ofList line) = [style] ∧ style.name = name ∧
    style.importsOn disk source (String.ofList line) = imports

/-- Lines of either form are read back by their own style alone, a plain import as its modules one
after the other and an import of names as the module that they come from; and no line is matched
by both styles. -/
theorem isReadBy_lines (disk : Disk) (source : Path) :
    (∀ items comment?, items ≠ [] →
      IsReadBy disk source "python-import" (plainLine items comment?)
        ((items.map (·.module.text)).map (resolved disk source))) ∧
    (∀ (module : Token) names, names ≠ [] → '\n' ∉ names →
      IsReadBy disk source "python-from-import" (fromLine module names)
        [resolved disk source module.text]) ∧
    ∀ line, (matching line).length ≤ 1 := by
  refine ⟨fun items comment? hne => ?_, fun module names hne hnames => ?_, length_matching_le_one⟩
  · have hplain : IsPlain (String.ofList (plainLine items comment?)).toList := by
      rw [String.toList_ofList]
      exact isPlain_plainLine hne comment?
    refine ⟨plainStyle, matching_of_isPlain hplain, rfl, ?_⟩
    rw [importsOn_plainStyle, String.toList_ofList, importTokens_plainLine hne]
  · have hfrom : IsFrom (String.ofList (fromLine module names)).toList := by
      rw [String.toList_ofList]
      exact isFrom_fromLine module hne hnames
    refine ⟨fromStyle, matching_of_isFrom hfrom, rfl, ?_⟩
    rw [importsOn_fromStyle, String.toList_ofList, fromTokens_fromLine, List.map_singleton]

/-- Blanks of four kinds, an alias and a comment in a plain import, and an import of names. -/
theorem isReadBy_lines_aliased :
    let disk : Disk :=
      ⟨[(["p".toList], .directory), (["p".toList, "b.py".toList], .file .empty)], []⟩
    let source := Path.ofString "/p/a.py"
    IsReadBy disk source "python-import" "import  a.c\u3000as\td\u00a0,b# e, f".toList
        [.external "a.c", .file (.ofString "/p/b.py")] ∧
      IsReadBy disk source "python-from-import" "from .b import c # d".toList
        [.file (.ofString "/p/b.py")] ∧
      (matching "from a import import b").length ≤ 1 := by
  intro disk source
  let items : List Item :=
    [⟨⟨[' '], by simp [Text.isBlank]⟩, ⟨"a.c".toList, by decide, by simp [Text.isBlank]⟩,
        some ⟨⟨['\u3000'], by simp [Text.isBlank]⟩, ⟨['\t'], by simp [Text.isBlank]⟩,
          ⟨['d'], by decide, by simp [Text.isBlank]⟩, by decide, by decide⟩,
        ⟨['\u00a0'], by simp [Text.isBlank]⟩⟩,
      ⟨⟨[], by simp⟩, ⟨['b'], by decide, by simp [Text.isBlank]⟩, none, ⟨[], by simp⟩⟩]
  have hplain := (isReadBy_lines disk source).1 items (some " e, f".toList) (List.cons_ne_nil _ _)
  have himports : (items.map (·.module.text)).map (resolved disk source) =
      [.external "a.c", .file (.ofString "/p/b.py")] := by decide +kernel
  have hfrom := (isReadBy_lines disk source).2.1 ⟨".b".toList, by decide, by simp [Text.isBlank]⟩
    "c # d".toList (by decide) (by decide)
  have himport : resolved disk source ".b".toList = .file (.ofString "/p/b.py") := by decide +kernel
  rw [himports] at hplain
  rw [himport] at hfrom
  exact ⟨hplain, hfrom, (isReadBy_lines disk source).2.2 _⟩

/-! ### Comments -/

theorem importTokens_before (line : List Char) :
    importTokens (before '#' line) = importTokens line := by
  rw [importTokens, importTokens, importBody, importBody, before_before]

theorem fromTokens_before (line : List Char) : fromTokens (before '#' line) = fromTokens line := by
  rw [fromTokens, fromTokens, before_before]

theorem isPlain_of_before (h : IsPlain (before '#' line)) : IsPlain line := by
  obtain ⟨comment, hline, -⟩ := exists_eq_before_append '#' line
  rw [hline]
  exact h.append comment

theorem isFrom_of_before (h : IsFrom (before '#' line)) : IsFrom line := by
  obtain ⟨comment, hline, -⟩ := exists_eq_before_append '#' line
  rw [hline]
  exact h.append comment

/-- Without its comment a plain import still is one, unless the comment is all that it has. -/
theorem isPlain_before_or_eq_nil (h : IsPlain line) :
    IsPlain (before '#' line) ∨ importTokens line = [] := by
  obtain ⟨c, rest, rfl, hc⟩ := h
  by_cases hmark : c = '#'
  · subst hmark
    rw [importTokens_import, before_cons_self]
    exact .inr rfl
  · left
    rw [before_append (by decide), show c :: rest = [c] ++ rest from rfl,
      before_append (by simpa using Ne.symm hmark)]
    exact ⟨c, before '#' rest, rfl, hc⟩

section

variable {line code : String}

/-- A line that is an import of names only by its comment imports the second word before it, if
there is one, and nothing without the comment. -/
theorem importsOn_of_commented (disk : Disk) (source : Path)
    (hcode : code.toList = before '#' line.toList) (hline : IsFrom line.toList)
    (hfrom : ¬ IsFrom code.toList) :
    Language.python.importsOn disk source line =
        ((words code.toList)[1]?).toList.map (resolved disk source) ∧
      Language.python.importsOn disk source code = [] := by
  have hplain : ¬ IsPlain code.toList := fun h =>
    not_isFrom_of_isPlain (isPlain_of_before (hcode ▸ h)) hline
  rw [importsOn_of_isFrom hline, importsOn_of_not hplain hfrom, fromTokens, ← hcode]
  exact ⟨rfl, rfl⟩

/-- In all other cases the comment does not matter. -/
theorem importsOn_code (disk : Disk) (source : Path)
    (hcode : code.toList = before '#' line.toList) (h : IsFrom line.toList → IsFrom code.toList) :
    Language.python.importsOn disk source line = Language.python.importsOn disk source code := by
  by_cases hfrom : IsFrom line.toList
  · rw [importsOn_of_isFrom hfrom, importsOn_of_isFrom (h hfrom), hcode, fromTokens_before]
  · have hfrom' : ¬ IsFrom code.toList := fun h => hfrom (isFrom_of_before (hcode ▸ h))
    by_cases hplain : IsPlain code.toList
    · rw [importsOn_of_isPlain (isPlain_of_before (hcode ▸ hplain)), importsOn_of_isPlain hplain,
        hcode, importTokens_before]
    · rw [importsOn_of_not hplain hfrom']
      by_cases hline : IsPlain line.toList
      · have hnone := (isPlain_before_or_eq_nil hline).resolve_left (hcode ▸ hplain)
        rw [importsOn_of_isPlain hline, hnone, List.map_nil]
      · exact importsOn_of_not hline hfrom

end

/-- A comment changes the imports of a line exactly if it alone makes the line an import of names
and a second word stands before it. The line then imports that word, and nothing without the
comment. -/
theorem importsOn_before_comment_iff (disk : Disk) (source : Path) (line : String) :
    let code := String.ofList (before '#' line.toList)
    (Language.python.importsOn disk source line = Language.python.importsOn disk source code ↔
      (IsFrom line.toList → IsFrom code.toList ∨ (words code.toList)[1]? = none)) ∧
    ∀ word, (words code.toList)[1]? = some word → IsFrom line.toList → ¬ IsFrom code.toList →
      Language.python.importsOn disk source line = [resolved disk source word] ∧
        Language.python.importsOn disk source code = [] := by
  intro code
  have hcode : code.toList = before '#' line.toList := String.toList_ofList
  have hadded : ∀ word, (words code.toList)[1]? = some word → IsFrom line.toList →
      ¬ IsFrom code.toList →
      Language.python.importsOn disk source line = [resolved disk source word] ∧
        Language.python.importsOn disk source code = [] := by
    intro word hword hline hfrom
    obtain ⟨hfound, hnone⟩ := importsOn_of_commented disk source hcode hline hfrom
    exact ⟨by rw [hfound, hword]; rfl, hnone⟩
  refine ⟨⟨fun heq hline => ?_, fun h => ?_⟩, hadded⟩
  · by_contra hneither
    obtain ⟨hfrom, hsome⟩ := not_or.1 hneither
    obtain ⟨word, hword⟩ := Option.ne_none_iff_exists'.1 hsome
    obtain ⟨hfound, hnone⟩ := hadded word hword hline hfrom
    rw [hfound, hnone] at heq
    cases heq
  · by_cases hcommented : IsFrom line.toList ∧ ¬ IsFrom code.toList
    · obtain ⟨hline, hfrom⟩ := hcommented
      obtain ⟨hfound, hnone⟩ := importsOn_of_commented disk source hcode hline hfrom
      rw [hfound, hnone, (h hline).resolve_left hfrom]
      rfl
    · refine importsOn_code disk source hcode fun hline => ?_
      by_contra hfrom
      exact hcommented ⟨hline, hfrom⟩

/-- The keyword of an import of names stands in the comment. -/
theorem importsOn_before_comment_iff_names :
    let source := Path.ofString "/p/a.py"
    IsFrom "from a#b import c".toList ∧ ¬ IsFrom "from a".toList ∧
      Language.python.importsOn (.empty []) source "from a#b import c" = [.external "a"] ∧
      Language.python.importsOn (.empty []) source "from a" = [] := by
  intro source
  have hline : IsFrom "from a#b import c".toList :=
    ⟨"a#b".toList, 'c', [], rfl, by decide, by decide, by decide⟩
  have hfrom : ¬ IsFrom "from a".toList := mt isMatch_fromStyle_iff.2 (by decide +kernel)
  have hcode : String.ofList (before '#' "from a#b import c".toList) = "from a" := by decide +kernel
  have hadded := (importsOn_before_comment_iff (.empty []) source "from a#b import c").2 "a".toList
  have himport : resolved (.empty []) source "a".toList = .external "a" := by decide +kernel
  rw [hcode, himport] at hadded
  exact ⟨hline, hfrom, hadded (by decide +kernel) hline hfrom⟩

/-- A comment gives a line an import. -/
theorem importsOn_beside_comment :
    let line := "from x # import y"
    Language.python.importsOn (.empty []) (.ofString "/p/a.py") line ≠
      Language.python.importsOn (.empty []) (.ofString "/p/a.py")
        (String.ofList (before '#' line.toList)) := by
  decide +kernel

end Python

end ImportWeb
