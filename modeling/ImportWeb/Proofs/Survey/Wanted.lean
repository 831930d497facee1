import ImportWeb.Proofs.Path.Extension
import ImportWeb.Proofs.Path.Climb
import ImportWeb.Proofs.Survey.Files

/-!
What a survey has to find. Among the files of a walk those are wanted whose extension is asked for
and which no pattern leaves out. A survey has each of them once: those that are text with their
lines, the others as skipped, and both in the order of their paths.
-/

namespace ImportWeb

open ImportWeb.Path

theorem fromUTF8?_eq_some_iff {content : ByteArray} {text : String} :
    String.fromUTF8? content = some text ↔ text.toUTF8 = content := by
  constructor
  · intro h
    unfold String.fromUTF8? at h
    split at h
    case isTrue => rw [← Option.some.inj h]; rfl
    case isFalse => cases h
  · rintro rfl
    have hvalid : text.toUTF8.IsValidUTF8 := text.isValidUTF8
    rw [String.fromUTF8?, dif_pos hvalid]
    rfl

namespace Survey

/-- No pattern of the list that is right matches the path of a file below the root, nor one of the
names in it. -/
def Kept (root : Location) (exclude : List String) (l : Location) : Prop :=
  ∀ pattern ∈ exclude, ∀ glob, Glob.ofText? pattern.toList = some glob →
    ∀ below, l = root ++ below →
      ¬ glob.isMatch ((Text.joinWith ['/'] below).map fun c => if c = '\\' then '/' else c) ∧
      ∀ n ∈ below, ¬ glob.isMatch n

/-- A file below a root that is asked for by its extension and not left out. -/
structure Wanted (root : Location) (extensions exclude : List String) (l : Location) : Prop where
  extension : ∃ above name e, l = above ++ [name] ∧ HasExtension name e ∧
    String.ofList e ∈ extensions
  kept : Kept root exclude l

/-- What a survey of a root holds of the files of a walk. -/
structure Finds (walked : List (Location × ByteArray)) (root : Location)
    (extensions exclude : List String) (s : Survey) : Prop where
  root_eq : s.root = root.toPath
  /-- Text, with its lines. -/
  mem_files : ∀ f, f ∈ s.files ↔ ∃ l text, (l, text.toUTF8) ∈ walked ∧
    Wanted root extensions exclude l ∧ f = .ofText l.toPath text
  /-- Anything else. -/
  mem_skipped : ∀ p, p ∈ s.skipped ↔ ∃ l content, (l, content) ∈ walked ∧
    Wanted root extensions exclude l ∧ (∀ text : String, text.toUTF8 ≠ content) ∧ p = l.toPath
  once : (s.files.map Source.path ++ s.skipped).Nodup
  files_sorted : s.files.Pairwise fun f g => Location.ofPath f.path < Location.ofPath g.path
  skipped_sorted : s.skipped.Pairwise fun p q => Location.ofPath p < Location.ofPath q
  below : ∀ p ∈ s.files.map Source.path ++ s.skipped, IsBelow s.root p

variable {disk : Disk} {l : Location} {extensions exclude : List String}

theorem hasExtension_extensionOf (above : Location) (name : List Char) :
    HasExtension name (extensionOf (above ++ [name])) := by
  have h : extensionOf (above ++ [name]) = (cutExtension name).2.getD [] := by
    rw [extensionOf, List.getLast?_concat]
    rfl
  exact h ▸ hasExtension_cutExtension name

theorem isLeftOut_eq_false_iff {below : Location} :
    isLeftOut (globsOf exclude) below = false ↔ Kept l exclude (l ++ below) := by
  simp only [isLeftOut, globsOf, List.any_eq_false, List.mem_filterMap, forall_exists_index,
    and_imp, Bool.or_eq_true, not_or, List.any_eq_true, not_exists, not_and]
  constructor
  · intro h pattern hpattern glob hglob rest hrest
    obtain rfl := List.append_cancel_left hrest
    exact h glob pattern hpattern hglob
  · exact fun h glob pattern hpattern hglob => h pattern hpattern glob hglob below rfl

/-- The check that a survey makes is whether a file is wanted. -/
theorem isWanted_iff {below : Location} (hne : below ≠ []) :
    isWanted extensions (globsOf exclude) l (l ++ below) = true ↔
      Wanted l extensions exclude (l ++ below) := by
  obtain ⟨above, name, hsplit⟩ : ∃ above name, l ++ below = above ++ [name] :=
    ⟨_, _, (List.dropLast_concat_getLast (by simp [hne] : l ++ below ≠ [])).symm⟩
  rw [isWanted, Bool.and_eq_true, List.drop_left, Bool.not_eq_true',
    isLeftOut_eq_false_iff (l := l), List.contains_iff_mem]
  constructor
  · rintro ⟨hext, hkept⟩
    refine ⟨⟨above, name, _, hsplit, ?_, hext⟩, hkept⟩
    rw [hsplit]
    exact hasExtension_extensionOf above name
  · rintro ⟨⟨above', name', e, hsplit', hname, he⟩, hkept⟩
    refine ⟨?_, hkept⟩
    rw [hsplit', ← hname.unique (hasExtension_extensionOf above' name')]
    exact he

theorem mem_wanted_iff {f : Location × ByteArray} :
    f ∈ wanted disk l extensions exclude ↔
      f ∈ walk disk l ∧ Wanted l extensions exclude f.1 := by
  rw [mem_wanted]
  refine and_congr_right fun hf => ?_
  obtain ⟨-, ⟨below, hbelow⟩, hlt, -⟩ := mem_walk.1 hf
  have hne : below ≠ [] := by
    rintro rfl
    simp [← hbelow] at hlt
  rw [← hbelow, isWanted_iff hne]

/-- The files of a survey are in the order of their places. -/
theorem sorted_wanted (h : disk.IsTree) (l : Location) (extensions exclude : List String) :
    (wanted disk l extensions exclude).Pairwise fun a b => a.1 < b.1 := by
  have hsorted : (wanted disk l extensions exclude).Pairwise fun a b => before a b = true :=
    List.pairwise_mergeSort before_trans before_total _
  refine (hsorted.and (pairwise_wanted h l extensions exclude)).imp fun ⟨hle, hne⟩ => ?_
  by_contra hlt
  simp only [before, Bool.not_eq_true', decide_eq_false_iff_not, List.not_lt] at hle hlt
  exact hne (List.le_antisymm hle hlt)

theorem isName_of_mem_walk (h : disk.IsTree) {m : Location} {content : ByteArray}
    (hm : (m, content) ∈ walk disk l) : ∀ n ∈ m, IsName n := h.names _ (mem_walk.1 hm).1

theorem isName_of_mem_wanted (h : disk.IsTree) {f : Location × ByteArray}
    (hf : f ∈ wanted disk l extensions exclude) : ∀ n ∈ f.1, IsName n :=
  isName_of_mem_walk h (mem_wanted.1 hf).1

/-- A file has one content. -/
theorem content_unique (h : disk.IsTree) {m : Location} {content content' : ByteArray}
    (hm : (m, content) ∈ walk disk l) (hm' : (m, content') ∈ walk disk l) : content = content' := by
  have hentry := List.inj_on_of_nodup_map h.distinct (mem_walk.1 hm).1 (mem_walk.1 hm').1 rfl
  simpa using hentry

theorem mem_skipped {p : Path} : p ∈ (ofDirectory disk l extensions exclude).skipped ↔
    ∃ found ∈ wanted disk l extensions exclude, String.fromUTF8? found.2 = none ∧
      found.1.toPath = p := by
  simp only [ofDirectory, List.mem_filterMap, Option.ite_none_right_eq_some,
    Option.isNone_iff_eq_none, Option.some.injEq]

theorem isBelow_of_mem_wanted (h : disk.IsTree) (hl : ∀ n ∈ l, IsName n)
    {f : Location × ByteArray} (hf : f ∈ wanted disk l extensions exclude) :
    IsBelow l.toPath f.1.toPath := by
  obtain ⟨below, hne, hbelow, hplace⟩ := exists_below h hf
  rw [hplace]
  exact Location.isBelow_toPath hl hbelow hne

/-- What is taken from the files one by one stays in their order. -/
theorem sorted_filterMap (h : disk.IsTree) {α : Type} (take : Location × ByteArray → Option α)
    (path : α → Path) (hpath : ∀ f a, take f = some a → path a = f.1.toPath) :
    ((wanted disk l extensions exclude).filterMap take).Pairwise fun a b =>
      Location.ofPath (path a) < Location.ofPath (path b) := by
  refine List.pairwise_filterMap.2 ((sorted_wanted h l extensions exclude).imp_of_mem ?_)
  intro f g hf hg hlt a ha b hb
  rwa [hpath f a ha, hpath g b hb, Location.ofPath_toPath (isName_of_mem_wanted h hf),
    Location.ofPath_toPath (isName_of_mem_wanted h hg)]

theorem sorted_skipped (h : disk.IsTree) :
    (ofDirectory disk l extensions exclude).skipped.Pairwise fun p q =>
      Location.ofPath p < Location.ofPath q := by
  refine sorted_filterMap h _ id fun f p hp => ?_
  rw [Option.ite_none_right_eq_some] at hp
  exact (Option.some.inj hp.2).symm

theorem once_ofDirectory (h : disk.IsTree) :
    ((ofDirectory disk l extensions exclude).files.map Source.path ++
      (ofDirectory disk l extensions exclude).skipped).Nodup := by
  refine List.nodup_append.2 ⟨nodup_paths h, ?_, ?_⟩
  · refine (sorted_skipped h).imp fun hlt heq => ?_
    rw [heq] at hlt
    exact List.lt_irrefl _ hlt
  · intro p hp q hq heq
    obtain ⟨f, hf, rfl⟩ := List.mem_map.1 hp
    obtain ⟨⟨m, content⟩, hm, text, htext, rfl⟩ := mem_files.1 hf
    obtain ⟨⟨n, content'⟩, hn, hnone, rfl⟩ := mem_skipped.1 hq
    -- At one place there is one content, which is text or not.
    obtain rfl : m = n :=
      Location.toPath_inj (isName_of_mem_wanted h hm) (isName_of_mem_wanted h hn) heq
    obtain rfl := content_unique h (mem_wanted.1 hm).1 (mem_wanted.1 hn).1
    rw [htext] at hnone
    cases hnone

theorem finds_ofDirectory (h : disk.IsTree) (hl : ∀ n ∈ l, IsName n)
    (extensions exclude : List String) :
    Finds (walk disk l) l extensions exclude (ofDirectory disk l extensions exclude) where
  root_eq := rfl
  mem_files f := by
    rw [mem_files]
    constructor
    · rintro ⟨⟨m, content⟩, hm, text, htext, rfl⟩
      obtain rfl := fromUTF8?_eq_some_iff.1 htext
      exact ⟨m, text, (mem_wanted_iff.1 hm).1, (mem_wanted_iff.1 hm).2, rfl⟩
    · rintro ⟨m, text, hm, hwanted, rfl⟩
      exact ⟨_, mem_wanted_iff.2 ⟨hm, hwanted⟩, text, fromUTF8?_eq_some_iff.2 rfl, rfl⟩
  mem_skipped p := by
    have hnone : ∀ content : ByteArray, String.fromUTF8? content = none ↔
        ∀ text : String, text.toUTF8 ≠ content := by
      intro content
      rw [Option.eq_none_iff_forall_ne_some]
      simp only [ne_eq, fromUTF8?_eq_some_iff]
    rw [mem_skipped]
    constructor
    · rintro ⟨⟨m, content⟩, hm, htext, rfl⟩
      exact ⟨m, content, (mem_wanted_iff.1 hm).1, (mem_wanted_iff.1 hm).2, (hnone content).1 htext,
        rfl⟩
    · rintro ⟨m, content, hm, hwanted, htext, rfl⟩
      exact ⟨_, mem_wanted_iff.2 ⟨hm, hwanted⟩, (hnone content).2 htext, rfl⟩
  once := once_ofDirectory h
  files_sorted := sorted_filterMap h _ Source.path fun f a ha => by
    obtain ⟨text, -, rfl⟩ := Option.map_eq_some_iff.1 ha
    rfl
  skipped_sorted := sorted_skipped h
  below p hp := by
    rcases List.mem_append.1 hp with hp | hp
    · obtain ⟨f, hf, rfl⟩ := List.mem_map.1 hp
      obtain ⟨found, hfound, text, -, rfl⟩ := mem_files.1 hf
      exact isBelow_of_mem_wanted h hl hfound
    · obtain ⟨found, hfound, -, rfl⟩ := mem_skipped.1 hp
      exact isBelow_of_mem_wanted h hl hfound

theorem globsOf_filter (patterns : List String) :
    globsOf (patterns.filter fun p => (Glob.ofText? p.toList).isSome) = globsOf patterns := by
  rw [globsOf, globsOf, List.filterMap_filter]
  refine List.filterMap_congr fun p _ => ?_
  cases Glob.ofText? p.toList <;> rfl

end Survey

namespace Disk

variable {disk : Disk} {l : Location}

/-- The survey of a directory succeeds and finds the wanted ones among the files of the walk, and
patterns that are not right make no difference. -/
theorem survey_finds (h : disk.IsTree) {root : Path} (hroot : disk.locate root = .ok l)
    (hdirectory : disk.find? l = some .directory) (extensions exclude : List String) :
    ∃ s, disk.survey root extensions exclude = .ok s ∧
      s.Finds (Survey.walk disk l) l extensions exclude ∧
      disk.survey root extensions (exclude.filter fun p => (Glob.ofText? p.toList).isSome) =
        .ok s := by
  have hok : disk.rootOf root = .ok l := by
    rw [rootOf, hroot]
    simp only [hdirectory]
  have hright : Survey.ofDirectory disk l extensions
      (exclude.filter fun p => (Glob.ofText? p.toList).isSome) =
        Survey.ofDirectory disk l extensions exclude := by
    simp only [Survey.ofDirectory, Survey.wanted_eq, Survey.globsOf_filter]
  refine ⟨Survey.ofDirectory disk l extensions exclude, ?_, ?_, ?_⟩
  · rw [survey_eq, hok]
    rfl
  · exact Survey.finds_ofDirectory h (h.isName_of_rootOf hok) extensions exclude
  · rw [survey_eq, hok]
    exact congrArg Except.ok hright

/-- A project with a directory whose name begins like that of a file, with a file that is no text,
and with one that is ignored. -/
def crowded : Disk :=
  ⟨[(["p".toList], .directory),
    (["p".toList, ".gitignore".toList], .file "old.py".toUTF8),
    (["p".toList, ".py".toList], .file .empty),
    (["p".toList, "a".toList], .directory),
    (["p".toList, "a".toList, "b.py".toList], .file "import c\r\n".toUTF8),
    (["p".toList, "a".toList, "bad.py".toList], .file ⟨#[0xff]⟩),
    (["p".toList, "a".toList, "x_pb2.py".toList], .file .empty),
    (["p".toList, "a-b.py".toList], .file "x".toUTF8),
    (["p".toList, "old.py".toList], .file .empty)], []⟩

/-- Files in directories stand before a file whose name goes on with a smaller character than a
slash. -/
theorem survey_finds_crowded :
    crowded.IsTree ∧ ∃ s, crowded.survey (.ofString "/p") ["py"] ["[", "*_pb2.py"] = .ok s ∧
      s.Finds (Survey.walk crowded ["p".toList]) ["p".toList] ["py"] ["[", "*_pb2.py"] ∧
      s.files = [⟨.ofString "/p/a/b.py", "b", "py", ["import c"]⟩,
        ⟨.ofString "/p/a-b.py", "a-b", "py", ["x"]⟩] ∧
      s.skipped = [.ofString "/p/a/bad.py"] := by
  have htree : crowded.IsTree := ⟨by decide, by decide⟩
  have hlocate : crowded.locate (.ofString "/p") = .ok ["p".toList] := rfl
  obtain ⟨s, hs, hfinds, -⟩ := survey_finds htree hlocate rfl ["py"] ["[", "*_pb2.py"]
  have hroot : crowded.rootOf (.ofString "/p") = .ok ["p".toList] := rfl
  have hsurvey := survey_eq crowded (.ofString "/p") ["py"] ["[", "*_pb2.py"]
  rw [hs, hroot] at hsurvey
  have heq : s = .ofDirectory crowded ["p".toList] ["py"] ["[", "*_pb2.py"] :=
    Except.ok.inj hsurvey
  subst heq
  refine ⟨htree, _, hs, hfinds, ?_⟩
  rw [Survey.ofDirectory, Survey.wanted_eq, List.mergeSort_of_pairwise (by decide +kernel)]
  exact ⟨by decide +kernel, by decide +kernel⟩

end Disk

end ImportWeb
