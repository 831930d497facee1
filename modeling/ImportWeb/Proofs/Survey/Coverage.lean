import ImportWeb.Proofs.Style.Selection
import ImportWeb.Proofs.Survey.Wanted

/-!
Which files the styles of a registry get to see. A survey tells files by what follows the last dot
of their names, while a style may be registered for an ending with dots of its own. The files with
such an ending are found, and read by its styles, exactly if these are registered for what follows
the ending's last dot as well.
-/

namespace ImportWeb

open ImportWeb.Path

theorem Registry.extensions_singleton (name : String) (style : Style) :
    (Registry.mk [⟨name, [style]⟩]).extensions = sortedSet style.extensions := by
  simp [Registry.extensions, Registry.styles]

/-- A file that is found and that every style registered for an ending applies to, if it can be
read. -/
structure Survey.Covers (s : Survey) (r : Registry) (ending : String) (p : Path) : Prop where
  found : p ∈ s.files.map Source.path ++ s.skipped
  applicable : ∀ f ∈ s.files, f.path = p → ∀ style ∈ r.styles, ending ∈ style.extensions →
    style ∈ r.applicable f.extension

/-- The extension of the files with an ending. -/
def Path.extensionOfEnding (ending : String) : String := String.ofList (afterLastDot ending.toList)

namespace Survey

variable {l above : Location} {stem : List Char} {ending : String}

theorem extension_ofText {name e : List Char} (h : ∀ n ∈ above ++ [name], IsName n)
    (hname : HasExtension name e) (text : String) :
    (Source.ofText (Location.toPath (above ++ [name])) text).extension = String.ofList e := by
  have hlast : (Location.toPath (above ++ [name])).fileName? = some name := by
    have hcomponents : (Location.toPath (above ++ [name])).components.getLast? =
        some (.name name) := by
      rw [Location.components_toPath h, List.map_append, ← List.cons_append]
      exact List.getLast?_concat
    rw [fileName?, hcomponents]
  rw [Source.ofText, extension?, hlast, Option.bind_some, hasExtension_iff.1 hname]

theorem mem_applicable {r : Registry} {style : Style} {e : String} :
    style ∈ r.applicable e ↔ style ∈ r.styles ∧ e ∈ style.extensions := by
  rw [Registry.applicable, List.mem_filter, Style.covers, List.contains_iff_mem]

/-- A file that no pattern leaves out is wanted if its ending's extension is. -/
theorem wanted_iff_of_ending {extensions exclude : List String} (hstem : stem ≠ [])
    (hkept : Kept l exclude (above ++ [stem ++ '.' :: ending.toList])) :
    Wanted l extensions exclude (above ++ [stem ++ '.' :: ending.toList]) ↔
      extensionOfEnding ending ∈ extensions := by
  have hends := hasExtension_append hstem ending.toList
  constructor
  · rintro ⟨⟨above', name, e, heq, hname, he⟩, -⟩
    obtain ⟨-, hnames⟩ := List.append_inj' heq rfl
    obtain rfl := List.singleton_inj.1 hnames
    rwa [hname.unique hends] at he
  · exact fun he => ⟨⟨above, _, _, rfl, hends, he⟩, hkept⟩

/-! ### The file at a place -/

variable {disk : Disk} {extensions exclude : List String} {s : Survey} {m : Location}
  {content : ByteArray}

theorem Finds.mem_paths (h : disk.IsTree) (hs : s.Finds (walk disk l) l extensions exclude)
    (hm : (m, content) ∈ walk disk l) :
    m.toPath ∈ s.files.map Source.path ++ s.skipped ↔ Wanted l extensions exclude m := by
  have hname := isName_of_mem_walk h hm
  rw [List.mem_append, List.mem_map]
  constructor
  · rintro (⟨f, hf, hpath⟩ | hskipped)
    · obtain ⟨m', text, hm', hwanted, rfl⟩ := (hs.mem_files f).1 hf
      rwa [← Location.toPath_inj (isName_of_mem_walk h hm') hname hpath]
    · obtain ⟨m', content', hm', hwanted, -, hpath⟩ := (hs.mem_skipped _).1 hskipped
      rwa [Location.toPath_inj hname (isName_of_mem_walk h hm') hpath]
  · intro hwanted
    by_cases htext : ∃ text : String, text.toUTF8 = content
    · obtain ⟨text, rfl⟩ := htext
      exact .inl ⟨_, (hs.mem_files _).2 ⟨m, text, hm, hwanted, rfl⟩, rfl⟩
    · exact .inr ((hs.mem_skipped _).2 ⟨m, content, hm, hwanted, not_exists.1 htext, rfl⟩)

theorem Finds.eq_ofText (h : disk.IsTree) (hs : s.Finds (walk disk l) l extensions exclude)
    (hm : (m, content) ∈ walk disk l) {f : Source} (hf : f ∈ s.files) (hpath : f.path = m.toPath) :
    ∃ text : String, text.toUTF8 = content ∧ f = .ofText m.toPath text := by
  obtain ⟨m', text, hm', -, rfl⟩ := (hs.mem_files f).1 hf
  obtain rfl :=
    Location.toPath_inj (isName_of_mem_walk h hm') (isName_of_mem_walk h hm) hpath
  exact ⟨text, content_unique h hm' hm, rfl⟩

/-- The styles of an ending get to see a file exactly if its extension is looked for and, unless
the file cannot be read, theirs as well. -/
theorem Finds.covers_iff {r : Registry} (h : disk.IsTree)
    (hs : s.Finds (walk disk l) l r.extensions exclude) (hstem : stem ≠ [])
    (hm : (above ++ [stem ++ '.' :: ending.toList], content) ∈ walk disk l)
    (hkept : Kept l exclude (above ++ [stem ++ '.' :: ending.toList])) :
    s.Covers r ending (Location.toPath (above ++ [stem ++ '.' :: ending.toList])) ↔
      extensionOfEnding ending ∈ r.extensions ∧ ((∃ text : String, text.toUTF8 = content) →
        ∀ style ∈ r.styles, ending ∈ style.extensions →
          extensionOfEnding ending ∈ style.extensions) := by
  have hfound := (hs.mem_paths h hm).trans (wanted_iff_of_ending hstem hkept)
  have hextension := extension_ofText (isName_of_mem_walk h hm)
    (hasExtension_append hstem ending.toList)
  constructor
  · rintro ⟨hpath, happlicable⟩
    refine ⟨hfound.1 hpath, fun ⟨text, htext⟩ style hstyle hending => ?_⟩
    have hfile : Source.ofText (Location.toPath (above ++ [stem ++ '.' :: ending.toList])) text ∈
        s.files :=
      (hs.mem_files _).2 ⟨_, text, htext ▸ hm, (hs.mem_paths h hm).1 hpath, rfl⟩
    have hseen := happlicable _ hfile rfl style hstyle hending
    rw [hextension, mem_applicable] at hseen
    exact hseen.2
  · rintro ⟨he, hstyles⟩
    refine ⟨hfound.2 he, fun f hf hpath style hstyle hending => ?_⟩
    obtain ⟨text, htext, rfl⟩ := hs.eq_ofText h hm hf hpath
    rw [hextension, mem_applicable]
    exact ⟨hstyle, hstyles ⟨text, htext⟩ style hstyle hending⟩

end Survey

namespace Disk

variable {disk : Disk} {l : Location}

/-- A survey for the extensions of a registry succeeds and covers a file with one of them for an
ending, whether it holds dots or not, exactly if what follows the last dot of the ending is an
extension of the registry and, for a text, of every style with that ending. -/
theorem survey_covers_iff (h : disk.IsTree) {root : Path} (hroot : disk.locate root = .ok l)
    (hdirectory : disk.find? l = some .directory) (r : Registry) (exclude : List String)
    {ending : String} (hending : ending ∈ r.extensions) :
    ∃ s, disk.survey root r.extensions exclude = .ok s ∧
      ∀ above stem content, stem ≠ [] →
        (above ++ [stem ++ '.' :: ending.toList], content) ∈ Survey.walk disk l →
        Survey.Kept l exclude (above ++ [stem ++ '.' :: ending.toList]) →
        (s.Covers r ending (Location.toPath (above ++ [stem ++ '.' :: ending.toList])) ↔
          extensionOfEnding ending ∈ r.extensions ∧ ((∃ text : String, text.toUTF8 = content) →
            ∀ style ∈ r.styles, ending ∈ style.extensions →
              extensionOfEnding ending ∈ style.extensions)) ∧
        ('.' ∉ ending.toList →
          s.Covers r ending (Location.toPath (above ++ [stem ++ '.' :: ending.toList]))) := by
  obtain ⟨s, hs, hfinds, -⟩ := survey_finds h hroot hdirectory r.extensions exclude
  refine ⟨s, hs, fun above stem content hstem hm hkept => ?_⟩
  have hcovers := hfinds.covers_iff h hstem hm hkept
  refine ⟨hcovers, fun hdot => hcovers.2 ?_⟩
  have hsame : extensionOfEnding ending = ending := by
    rw [extensionOfEnding, afterLastDot_of_not_mem hdot, String.ofList_toList]
  rw [hsame]
  exact ⟨hending, fun _ _ _ he => he⟩

/-- A project with a file whose ending has a dot. -/
def declarations : Disk :=
  ⟨[(["p".toList], .directory), (["p".toList, "a.d.ts".toList], .file "import b".toUTF8)], []⟩

theorem isTree_declarations : declarations.IsTree := ⟨by decide, by decide⟩

theorem locate_declarations : declarations.locate (.ofString "/p") = .ok ["p".toList] := rfl

theorem mem_walk_declarations :
    (["p".toList] ++ ["a".toList ++ '.' :: "d.ts".toList], "import b".toUTF8) ∈
      Survey.walk declarations ["p".toList] := by
  have hname : "a".toList ++ '.' :: "d.ts".toList = "a.d.ts".toList := by decide
  rw [hname]
  exact Survey.mem_walk.2 ⟨by simp [declarations], by decide, by decide, by decide +kernel⟩

/-- A style for the ending and for its last part gets to see the file. -/
theorem survey_covers_iff_declarations :
    ∃ style, Style.make "ts" [".d.ts", "ts"] "import (?P<module>.+)" (.capture .slashed) =
        .ok style ∧
      ∃ s, declarations.survey (.ofString "/p") (Registry.mk [⟨"ts", [style]⟩]).extensions [] =
          .ok s ∧
        s.Covers ⟨[⟨"ts", [style]⟩]⟩ "d.ts" (.ofString "/p/a.d.ts") := by
  obtain ⟨style, hstyle, hextensions⟩ : ∃ style, Style.make "ts" [".d.ts", "ts"]
      "import (?P<module>.+)" (.capture .slashed) = .ok style ∧
        style.extensions = ["d.ts", "ts"] := ⟨_, rfl, by decide +kernel⟩
  have hunion : (Registry.mk [⟨"ts", [style]⟩]).extensions = ["d.ts", "ts"] := by
    rw [Registry.extensions_singleton, hextensions]
    decide
  have hlast : extensionOfEnding "d.ts" = "ts" := by decide
  have hending : "d.ts" ∈ (Registry.mk [⟨"ts", [style]⟩]).extensions := by simp [hunion]
  obtain ⟨s, hs, hcovers⟩ := survey_covers_iff isTree_declarations locate_declarations rfl _ []
    hending
  refine ⟨style, hstyle, s, hs, ?_⟩
  refine ((hcovers ["p".toList] "a".toList _ (by decide) mem_walk_declarations
    fun pattern hpattern => ?_).1).2 ⟨?_, fun _ style' hstyle' _ => ?_⟩
  · cases hpattern
  · simp [hlast, hunion]
  · obtain rfl : style' = style := by simpa [Registry.styles] using hstyle'
    simp [hlast, hextensions]

/-- A style for the ending alone does not. -/
theorem survey_misses_declarations :
    ∃ style, Style.make "ts" [".d.ts"] "import (?P<module>.+)" (.capture .slashed) = .ok style ∧
      "d.ts" ∈ (Registry.mk [⟨"ts", [style]⟩]).extensions ∧
      (["p".toList] ++ ["a".toList ++ '.' :: "d.ts".toList], "import b".toUTF8) ∈
        Survey.walk declarations ["p".toList] ∧
      declarations.survey (.ofString "/p") (Registry.mk [⟨"ts", [style]⟩]).extensions [] =
        .ok ⟨.ofString "/p", [], []⟩ := by
  obtain ⟨style, hstyle, hextensions⟩ : ∃ style, Style.make "ts" [".d.ts"]
      "import (?P<module>.+)" (.capture .slashed) = .ok style ∧ style.extensions = ["d.ts"] :=
    ⟨_, rfl, by decide +kernel⟩
  have hunion : (Registry.mk [⟨"ts", [style]⟩]).extensions = ["d.ts"] := by
    rw [Registry.extensions_singleton, hextensions]
    decide
  refine ⟨style, hstyle, by simp [hunion], mem_walk_declarations, ?_⟩
  have hroot : declarations.rootOf (.ofString "/p") = .ok ["p".toList] := rfl
  rw [hunion, survey_eq, hroot, Except.map, Survey.ofDirectory, Survey.wanted_eq,
    List.mergeSort_of_pairwise (by decide +kernel)]
  decide +kernel

end Disk

end ImportWeb
