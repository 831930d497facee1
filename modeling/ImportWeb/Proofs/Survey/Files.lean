import Mathlib.Data.List.Nodup
import ImportWeb.Proofs.Path.Location
import ImportWeb.Proofs.Survey.Outcome

/-!
What a survey finds: the files of a walk that are wanted, in the order of their paths. On a tree
every file stands at a place of its own below the root. Wanting fewer files takes some away and
neither changes nor moves the others.
-/

namespace ImportWeb

open ImportWeb.Path

/-- Elements that the order tells apart can be taken out before or after sorting. -/
theorem mergeSort_filter {α : Type*} {le : α → α → Bool}
    (htrans : ∀ a b c, le a b = true → le b c = true → le a c = true)
    (htotal : ∀ a b, (le a b || le b a) = true) (p : α → Bool) {l : List α}
    (hanti : ∀ a ∈ l, ∀ b ∈ l, le a b = true → le b a = true → a = b) :
    (l.filter p).mergeSort le = (l.mergeSort le).filter p := by
  -- Both sides are sorted and have the same elements.
  have hperm : ((l.filter p).mergeSort le).Perm ((l.mergeSort le).filter p) :=
    (List.mergeSort_perm _ _).trans ((List.mergeSort_perm l le).filter p).symm
  refine hperm.eq_of_pairwise ?_ (List.pairwise_mergeSort htrans htotal _)
    ((List.pairwise_mergeSort htrans htotal l).filter p)
  intro a b ha hb
  have hmem : ∀ c ∈ (l.mergeSort le).filter p, c ∈ l := fun c hc =>
    (List.mergeSort_perm l le).mem_iff.1 (List.mem_of_mem_filter hc)
  exact hanti a (hmem a (hperm.mem_iff.1 ha)) b (hmem b hb)

/-! ### Trees -/

namespace Disk

/-- Entries at places of their own, under names that a path can hold. -/
structure IsTree (disk : Disk) : Prop where
  names : ∀ e ∈ disk.entries, ∀ n ∈ e.1, IsName n
  distinct : (disk.entries.map Prod.fst).Nodup

variable {disk : Disk} {l : Location}

theorem IsTree.isName_of_find? (h : disk.IsTree) {e : Entry} (hl : disk.find? l = some e) :
    ∀ n ∈ l, IsName n := by
  intro n hn
  rw [find?, if_neg (by simpa using List.ne_nil_of_mem hn), Option.map_eq_some_iff] at hl
  obtain ⟨entry, hentry, -⟩ := hl
  have hplace : entry.1 = l := by simpa using List.find?_some hentry
  exact h.names entry (List.mem_of_find?_eq_some hentry) n (hplace ▸ hn)

theorem IsTree.isName_of_rootOf (h : disk.IsTree) {root : Path} (hl : disk.rootOf root = .ok l) :
    ∀ n ∈ l, IsName n := h.isName_of_find? (find?_rootOf hl)

end Disk

/-! ### The files -/

namespace Survey

variable {disk : Disk} {l : Location} {extensions exclude : List String}

/-- What becomes of an entry on a walk. -/
def walked? (disk : Disk) (l : Location) : Location × Entry → Option (Location × ByteArray)
  | (m, .file content) =>
    if l.isPrefixOf m && l.length < m.length && isVisible (ruleTables disk l) l m then
      some (m, content)
    else none
  | _ => none

theorem walk_eq (disk : Disk) (l : Location) :
    walk disk l = disk.entries.filterMap (walked? disk l) := rfl

theorem walked?_eq_some_iff {e : Location × Entry} {f : Location × ByteArray} :
    walked? disk l e = some f ↔ e = (f.1, .file f.2) ∧ l <+: f.1 ∧ l.length < f.1.length ∧
      isVisible (ruleTables disk l) l f.1 = true := by
  obtain ⟨m, entry⟩ := e
  obtain ⟨n, content⟩ := f
  cases entry with
  | file text =>
    simp only [walked?, Option.ite_none_right_eq_some, Bool.and_eq_true, and_assoc,
      List.isPrefixOf_iff_prefix, decide_eq_true_eq, Option.some.injEq, Prod.mk.injEq,
      Entry.file.injEq]
    constructor
    · rintro ⟨hbelow, hlt, hvisible, rfl, rfl⟩
      exact ⟨rfl, rfl, hbelow, hlt, hvisible⟩
    · rintro ⟨rfl, rfl, hbelow, hlt, hvisible⟩
      exact ⟨hbelow, hlt, hvisible, rfl, rfl⟩
  | directory => simp [walked?]
  | link target => simp [walked?]

theorem mem_walk {f : Location × ByteArray} :
    f ∈ walk disk l ↔ (f.1, .file f.2) ∈ disk.entries ∧ l <+: f.1 ∧ l.length < f.1.length ∧
      isVisible (ruleTables disk l) l f.1 = true := by
  simp only [walk_eq, List.mem_filterMap, walked?_eq_some_iff, ↓existsAndEq, true_and]

/-- The order in which a survey has its files. -/
def before (a b : Location × ByteArray) : Bool := ! decide (b.1 < a.1)

theorem before_trans (a b c : Location × ByteArray) (hab : before a b = true)
    (hbc : before b c = true) : before a c = true := by
  simp only [before, Bool.not_eq_true', decide_eq_false_iff_not, List.not_lt] at *
  exact List.le_trans hab hbc

theorem before_total (a b : Location × ByteArray) : (before a b || before b a) = true := by
  simp only [before, Bool.or_eq_true, Bool.not_eq_true', decide_eq_false_iff_not, List.not_lt]
  exact List.le_total a.1 b.1

/-- On a tree the order tells all files apart. -/
theorem before_antisymm (h : disk.IsTree) {a b : Location × ByteArray} (ha : a ∈ walk disk l)
    (hb : b ∈ walk disk l) (hab : before a b = true) (hba : before b a = true) : a = b := by
  simp only [before, Bool.not_eq_true', decide_eq_false_iff_not, List.not_lt] at hab hba
  have hplace : a.1 = b.1 := List.le_antisymm hab hba
  have hentry := List.inj_on_of_nodup_map h.distinct (mem_walk.1 ha).1 (mem_walk.1 hb).1 hplace
  simp only [Prod.mk.injEq, Entry.file.injEq] at hentry
  exact Prod.ext hentry.1 hentry.2

/-- The patterns of a list that are right. -/
def globsOf (patterns : List String) : List Glob :=
  patterns.filterMap fun s => Glob.ofText? s.toList

theorem wanted_eq (disk : Disk) (l : Location) (extensions exclude : List String) :
    wanted disk l extensions exclude =
      ((walk disk l).filter fun f =>
        isWanted extensions (globsOf exclude) l f.1).mergeSort before := rfl

theorem mem_wanted {f : Location × ByteArray} :
    f ∈ wanted disk l extensions exclude ↔
      f ∈ walk disk l ∧ isWanted extensions (globsOf exclude) l f.1 = true := by
  rw [wanted_eq, List.mem_mergeSort, List.mem_filter]

/-- A wanted file of a tree lies below the root, at the end of a path of names. -/
theorem exists_below (h : disk.IsTree) {f : Location × ByteArray}
    (hf : f ∈ wanted disk l extensions exclude) :
    ∃ below, below ≠ [] ∧ (∀ n ∈ below, IsName n) ∧ f.1 = l ++ below := by
  obtain ⟨hentry, ⟨below, hbelow⟩, hlt, -⟩ := mem_walk.1 (mem_wanted.1 hf).1
  refine ⟨below, ?_, ?_, hbelow.symm⟩
  · rintro rfl
    simp [← hbelow] at hlt
  · intro n hn
    exact h.names _ hentry n (hbelow ▸ List.mem_append_right l hn)

theorem mem_files {f : Source} : f ∈ (ofDirectory disk l extensions exclude).files ↔
    ∃ found ∈ wanted disk l extensions exclude, ∃ text, String.fromUTF8? found.2 = some text ∧
      Source.ofText found.1.toPath text = f := by
  simp only [ofDirectory, List.mem_filterMap, Option.map_eq_some_iff]

theorem pairwise_walk (h : disk.IsTree) (l : Location) :
    (walk disk l).Pairwise fun a b => a.1 ≠ b.1 := by
  refine (List.pairwise_map.1 h.distinct).filterMap _ fun x y hne a ha b hb => ?_
  obtain ⟨rfl, -⟩ := walked?_eq_some_iff.1 ha
  obtain ⟨rfl, -⟩ := walked?_eq_some_iff.1 hb
  exact hne

theorem pairwise_wanted (h : disk.IsTree) (l : Location) (extensions exclude : List String) :
    (wanted disk l extensions exclude).Pairwise fun a b => a.1 ≠ b.1 :=
  ((List.mergeSort_perm _ _).pairwise_iff Ne.symm).2 ((pairwise_walk h l).filter _)

/-- The files of a tree have paths of their own. -/
theorem nodup_paths (h : disk.IsTree) :
    ((ofDirectory disk l extensions exclude).files.map Source.path).Nodup := by
  have hnames : ∀ found ∈ wanted disk l extensions exclude, ∀ n ∈ found.1, IsName n := by
    intro found hfound
    exact h.names _ (mem_walk.1 (mem_wanted.1 hfound).1).1
  unfold ofDirectory
  apply List.pairwise_map.2
  apply List.pairwise_filterMap.2
  refine (pairwise_wanted h l extensions exclude).imp_of_mem fun ha hb hne f hf k hk heq => ?_
  obtain ⟨text, -, rfl⟩ := Option.map_eq_some_iff.1 hf
  obtain ⟨text', -, rfl⟩ := Option.map_eq_some_iff.1 hk
  exact hne (Location.toPath_inj (hnames _ ha) (hnames _ hb) heq)

/-! ### Fewer files -/

/-- Whether a pattern matches a key or one of the names in it. -/
def leavesOut (g : Glob) (key : String) : Bool :=
  g.isMatch (key.toList.map fun c => if c = '\\' then '/' else c) ||
    (Text.splitAtChar '/' key.toList).any g.isMatch

/-- Whether a pattern of the list that is right leaves out the file of a key. -/
def excludes (patterns : List String) (key : String) : Bool :=
  (globsOf patterns).any (leavesOut · key)

theorem isLeftOut_eq {below : Location} (hne : below ≠ []) (h : ∀ n ∈ below, IsName n)
    (patterns : List String) :
    isLeftOut (globsOf patterns) below =
      excludes patterns (String.ofList (Text.joinWith ['/'] below)) := by
  have hnames : Text.splitAtChar '/' (Text.joinWith ['/'] below) = below :=
    Text.splitAtChar_joinWith hne fun n hn => (h n hn).1
  simp only [isLeftOut, excludes, leavesOut, String.toList_ofList, hnames]

theorem isWanted_append (extensions exclude more : List String) (l m : Location) :
    isWanted extensions (globsOf (exclude ++ more)) l m =
      ((! isLeftOut (globsOf more) (m.drop l.length)) &&
        isWanted extensions (globsOf exclude) l m) := by
  simp only [isWanted, isLeftOut, globsOf, List.filterMap_append, List.any_append, Bool.not_or]
  ac_rfl

/-- More patterns leave out some of the files and keep the others in order. -/
theorem wanted_append (h : disk.IsTree) (l : Location) (extensions exclude more : List String) :
    wanted disk l extensions (exclude ++ more) = (wanted disk l extensions exclude).filter fun f =>
      ! isLeftOut (globsOf more) (f.1.drop l.length) := by
  rw [wanted_eq, wanted_eq, ← mergeSort_filter before_trans before_total, List.filter_filter]
  · simp only [isWanted_append]
  · intro a ha b hb
    exact before_antisymm h (List.mem_of_mem_filter ha) (List.mem_of_mem_filter hb)

/-- So it does with the files of a survey. -/
theorem files_append (h : disk.IsTree) (hl : ∀ n ∈ l, IsName n)
    (extensions exclude more : List String) :
    (ofDirectory disk l extensions (exclude ++ more)).files =
      (ofDirectory disk l extensions exclude).files.filter fun f =>
        (Key.ofPath? l.toPath f.path).any fun key => ! excludes more key := by
  simp only [ofDirectory, wanted_append h, List.filterMap_filter, List.filter_filterMap]
  refine List.filterMap_congr fun found hfound => ?_
  obtain ⟨below, hne, hbelow, hplace⟩ := exists_below h hfound
  have hkey := Location.ofPath?_toPath hl hbelow hne
  cases htext : String.fromUTF8? found.2 with
  | none => simp
  | some text =>
    have hpath : (Source.ofText found.1.toPath text).path = found.1.toPath := rfl
    rw [Option.map_some, Option.filter_some, hpath, hplace, hkey, List.drop_left,
      isLeftOut_eq hne hbelow, Option.any_some]

theorem files_subset {extensions' : List String} (h : extensions' ⊆ extensions) :
    (ofDirectory disk l extensions' exclude).files ⊆
      (ofDirectory disk l extensions exclude).files := by
  intro f hf
  obtain ⟨found, hfound, hf⟩ := mem_files.1 hf
  obtain ⟨hwalk, hwanted⟩ := mem_wanted.1 hfound
  refine mem_files.2 ⟨found, mem_wanted.2 ⟨hwalk, ?_⟩, hf⟩
  simp only [isWanted, Bool.and_eq_true, List.contains_iff_mem] at hwanted ⊢
  exact ⟨h hwanted.1, hwanted.2⟩

end Survey

end ImportWeb
