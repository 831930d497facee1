import Mathlib.Algebra.Order.BigOperators.Group.List
import Mathlib.Algebra.Order.Group.Nat
import ImportWeb.Proofs.Style.Selection
import ImportWeb.Proofs.Survey.Files
import ImportWeb.Proofs.Web.Edges
import ImportWeb.Proofs.Web.Reference

/-!
Fewer languages. A selection of languages has fewer files looked at, and fewer styles for each of
them, so a run with it finds nothing that the run with all of them does not find: no node, no edge
and no count is new.
-/

namespace ImportWeb

/-! ### Fewer styles -/

namespace Source

variable {disk : Disk} {registry narrow : Registry} {f : Source}

/-- Fewer styles find an import less often. -/
theorem times_mono (h : (narrow.applicable f.extension).Subperm (registry.applicable f.extension))
    (i : Import) : f.times disk narrow i ≤ f.times disk registry i := by
  refine List.sum_le_sum fun line _ => ?_
  obtain ⟨styles, hperm, hsub⟩ := h.filter (·.isMatch line)
  calc _ = (styles.map fun style => (style.importsOn disk f.path line).count i).sum :=
        (hperm.map _).symm.sum_nat
    _ ≤ _ := (hsub.map _).sum_le_sum fun _ _ => Nat.zero_le _

theorem mem_imports_mono
    (h : (narrow.applicable f.extension).Subperm (registry.applicable f.extension)) {i : Import}
    (hi : i ∈ f.imports disk narrow) : i ∈ f.imports disk registry := by
  rw [← List.count_pos_iff, count_imports] at hi ⊢
  exact Nat.lt_of_lt_of_le hi (times_mono h i)

end Source

/-! ### Fewer nodes and edges -/

/-- `g'` has nothing that `g` does not have. -/
structure Graph.Within (g' g : Graph) : Prop where
  /-- Every node is there, and a file has as many lines. -/
  nodes : g'.nodes ⊆ g.nodes
  /-- Every edge is there, and counts at least as much. -/
  arcs : ∀ x ∈ g'.arcs, ∃ y ∈ g.arcs, y.ends = x.ends ∧ x.count ≤ y.count
  joined : g'.arcs.length = g'.edgeCount

namespace Web

variable {disk : Disk} {registry narrow : Registry} {includeExternal : Bool} {root : Path}
  {files files' : List Source}

theorem nodes_subset_ofFiles (h' : Source.Proper root files') (h : Source.Proper root files)
    (hfiles : files' ⊆ files)
    (hstyles : ∀ e, (narrow.applicable e).Subperm (registry.applicable e)) :
    (ofFiles disk narrow includeExternal root files').graph.nodes ⊆
      (ofFiles disk registry includeExternal root files).graph.nodes := by
  intro n hn
  cases n with
  | external t =>
    rw [external_mem_nodes_iff, mem_externals_iff h'.keyed] at hn
    rw [external_mem_nodes_iff, mem_externals_iff h.keyed]
    obtain ⟨hflag, f, hf, ht⟩ := hn
    exact ⟨hflag, f, hfiles hf, Source.mem_imports_mono (hstyles f.extension) ht⟩
  | file info =>
    have hfile : ∀ {registry files}, .file info ∈
        (ofFiles disk registry includeExternal root files).graph.nodes ↔
          .file info ∈ (scanned root files).graph.nodes := by
      intro registry files
      rw [← fileNodes_ofFiles disk registry includeExternal, List.mem_filter]
      exact (and_iff_left rfl).symm
    rw [hfile, nodes_scanned_of_nodup h'.distinctKeys.filterMap] at hn
    rw [hfile, nodes_scanned_of_nodup h.distinctKeys.filterMap]
    obtain ⟨f, hf, hinfo⟩ := List.mem_filterMap.1 hn
    exact List.mem_filterMap.2 ⟨f, hfiles hf, hinfo⟩

theorem count_le_countOf_ofFiles (h' : Source.Proper root files') (h : Source.Proper root files)
    (hfiles : files' ⊆ files)
    (hstyles : ∀ e, (narrow.applicable e).Subperm (registry.applicable e)) {x : Arc}
    (hx : x ∈ (ofFiles disk narrow includeExternal root files').graph.arcs) :
    x.count ≤
      (ofFiles disk registry includeExternal root files).graph.countOf x.source x.target := by
  obtain ⟨-, hcount⟩ := (Graph.mem_arcs (inStep_ofFiles ..)).1 hx
  obtain ⟨f, hf, b, hb, htarget, hsource⟩ := ends_of_mem_arcs hx
  rw [← hcount, htarget]
  rcases hsource with ⟨k, hk, hne, a, ha, hsource⟩ | ⟨-, t, hsource⟩
  · rw [hsource, countOf_files (h'.toldByKeys disk narrow) hf hk hne ha hb,
      countOf_files (h.toldByKeys disk registry) (hfiles hf) (hfiles hk) hne ha hb]
    exact Source.times_mono (hstyles f.extension) _
  · rw [hsource, countOf_external h'.distinctKeys hf hb,
      countOf_external h.distinctKeys (hfiles hf) hb]
    split
    · exact Source.times_mono (hstyles f.extension) _
    · exact Nat.le_refl 0

theorem within_ofFiles (h' : Source.Proper root files') (h : Source.Proper root files)
    (hfiles : files' ⊆ files)
    (hstyles : ∀ e, (narrow.applicable e).Subperm (registry.applicable e)) :
    (ofFiles disk narrow includeExternal root files').graph.Within
      (ofFiles disk registry includeExternal root files).graph := by
  have hg' := inStep_ofFiles disk narrow includeExternal root files'
  refine
    { nodes := nodes_subset_ofFiles h' h hfiles hstyles
      arcs := ?arcs
      joined := Graph.length_arcs hg' }
  case arcs =>
    intro x hx
    have hle := count_le_countOf_ofFiles h' h hfiles hstyles hx
    have hpos := ((Graph.mem_arcs hg').1 hx).1
    exact ⟨⟨x.source, x.target, _⟩,
      (Graph.mem_arcs (inStep_ofFiles ..)).2 ⟨Nat.lt_of_lt_of_le hpos hle, rfl⟩, rfl, hle⟩

end Web

/-! ### Fewer files -/

/-- The files that a survey of a tree finds are what they should be. -/
theorem Survey.proper_ofDirectory {disk : Disk} {l : Location} (h : disk.IsTree)
    (hl : ∀ n ∈ l, Path.IsName n) (extensions exclude : List String) :
    Source.Proper l.toPath (ofDirectory disk l extensions exclude).files := by
  have hplace : ∀ f ∈ (ofDirectory disk l extensions exclude).files, ∃ below, below ≠ [] ∧
      (∀ n ∈ below, Path.IsName n) ∧ f.path = (l ++ below).toPath := by
    intro f hf
    obtain ⟨found, hfound, text, -, rfl⟩ := mem_files.1 hf
    obtain ⟨below, hne, hbelow, heq⟩ := exists_below h hfound
    exact ⟨below, hne, hbelow, congrArg Location.toPath heq⟩
  refine
    { root_absolute := Location.isAbsolute_toPath l
      root_clean := Location.clean_toPath hl
      absolute := ?absolute
      clean := ?clean
      below := ?below
      distinct := nodup_paths h }
  case absolute =>
    intro f hf
    obtain ⟨below, -, -, hpath⟩ := hplace f hf
    rw [hpath, Location.isAbsolute_toPath]
  case clean =>
    intro f hf
    obtain ⟨below, -, hbelow, hpath⟩ := hplace f hf
    rw [hpath, Location.clean_toPath]
    exact fun n hn => (List.mem_append.1 hn).elim (hl n) (hbelow n)
  case below =>
    intro f hf
    obtain ⟨below, hne, hbelow, hpath⟩ := hplace f hf
    rw [hpath]
    exact Location.isBelow_toPath hl hbelow hne

namespace Disk

variable {disk : Disk} {registry narrow : Registry}

/-- A run with some of the languages finds nothing that the run with all of them does not find. -/
theorem within_web_select (h : disk.IsTree) {names : List String}
    (hselect : registry.select names = .ok narrow) (includeExternal : Bool)
    (exclude : List String) (root : Path) :
    SameOutcome (fun w' w => w'.graph.Within w.graph)
      (disk.web narrow includeExternal exclude root)
      (disk.web registry includeExternal exclude root) := by
  have hstyles := Registry.subperm_styles (Registry.subperm_languages_select hselect)
  rw [web_eq, web_eq]
  refine SameOutcome.map fun l hl => ?_
  have hproper := Survey.proper_ofDirectory h (h.isName_of_rootOf hl)
  exact Web.within_ofFiles (hproper _ _) (hproper _ _)
    (Survey.files_subset (Registry.extensions_subset hstyles))
    (Registry.subperm_applicable hstyles)

/-- Files of two languages. -/
def mixed : Disk :=
  ⟨[(["p".toList], .directory),
    (["p".toList, "a.py".toList], .file "import b, os".toUTF8),
    (["p".toList, "b.c".toList], .file "#include \"b.h\"\n#include \"c.h\"".toUTF8),
    (["p".toList, "b.h".toList], .file .empty),
    (["p".toList, "b.py".toList], .file .empty)], []⟩

/-- What a run finds in them. -/
def mixedWeb (registry : Registry) : Web :=
  .ofSurvey mixed registry true (.ofDirectory mixed ["p".toList] registry.extensions [])

theorem web_mixed (registry : Registry) :
    mixed.web registry true [] (.ofString "/p") = .ok (mixedWeb registry) := by
  have hroot : mixed.rootOf (.ofString "/p") = .ok ["p".toList] := rfl
  rw [web_eq, hroot]
  rfl

theorem within_web_mixed :
    mixed.IsTree ∧ Registry.builtin.select ["C"] = .ok ⟨[Language.c]⟩ ∧
      (mixedWeb ⟨[Language.c]⟩).graph.Within (mixedWeb .builtin).graph ∧
      (mixedWeb ⟨[Language.c]⟩).graph.arcs =
        [⟨.file "b.h", .file "b.c", 1⟩, ⟨.external "c.h", .file "b.c", 1⟩] ∧
      (mixedWeb .builtin).graph.arcs =
        [⟨.file "b.py", .file "a.py", 1⟩, ⟨.external "os", .file "a.py", 1⟩,
          ⟨.file "b.h", .file "b.c", 1⟩, ⟨.external "c.h", .file "b.c", 1⟩] := by
  have htree : mixed.IsTree := ⟨by decide, by decide⟩
  have hselect : Registry.builtin.select ["C"] = .ok ⟨[Language.c]⟩ := rfl
  have hwithin := within_web_select htree hselect true [] (.ofString "/p")
  rw [web_mixed, web_mixed] at hwithin
  cases hwithin with
  | ok hwithin =>
    refine ⟨htree, hselect, hwithin, ?_, ?_⟩
    all_goals
      rw [mixedWeb, Web.ofSurvey, Survey.ofDirectory, Survey.wanted_eq,
        List.mergeSort_of_pairwise (by decide +kernel)]
      decide +kernel

end Disk

end ImportWeb
