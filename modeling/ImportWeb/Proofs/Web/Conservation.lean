import ImportWeb.Proofs.Web.Passes

/-!
No import is lost and none is counted twice. What a tally has counted is drawn, unless a file
imports itself or an import ends outside the graph, and the graph never turns down an edge that
a run asks for.
-/

namespace ImportWeb

/-! ### The tally of a list of links -/

/-- Whether a tally has counted the links, those that are drawn and those that are not. -/
structure Tally.Counts (includeExternal : Bool) (t : Tally) (links : Links) : Prop where
  drawn : (links.ends includeExternal).length + t.selfImports + t.outsideTargets =
    t.internalImports + if includeExternal then t.externalImports else 0
  undrawn : t.selfImports + t.outsideTargets ≤ t.internalImports
  all : t.internalImports + t.externalImports = links.length

namespace Link

variable (t : Tally) (link : Link)

theorem count_all : (link.count t).internalImports + (link.count t).externalImports =
    t.internalImports + t.externalImports + 1 := by
  cases link <;> simp only [count] <;> omega

theorem count_undrawn (h : t.selfImports + t.outsideTargets ≤ t.internalImports) :
    (link.count t).selfImports + (link.count t).outsideTargets ≤
      (link.count t).internalImports := by
  cases link <;> simp only [count] <;> omega

/-- A link is drawn, or it is left out for the reason that the tally gives. -/
theorem count_drawn (includeExternal : Bool) (importer : String) :
    (link.ends? includeExternal importer).toList.length + (link.count t).selfImports +
        (link.count t).outsideTargets +
        (t.internalImports + if includeExternal then t.externalImports else 0) =
      t.selfImports + t.outsideTargets +
        ((link.count t).internalImports +
          if includeExternal then (link.count t).externalImports else 0) := by
  cases link <;> cases includeExternal <;> simp [count, ends?] <;> omega

end Link

theorem Tally.Counts.concat {includeExternal : Bool} {t : Tally} {links : Links}
    (h : t.Counts includeExternal links) (l : String × Link) :
    (l.2.count t).Counts includeExternal (links ++ [l]) := by
  obtain ⟨hdrawn, hundrawn, hall⟩ := h
  refine ⟨?_, l.2.count_undrawn t hundrawn, ?_⟩
  · have hlink := l.2.count_drawn t includeExternal l.1
    rw [Links.ends_concat, List.length_append]
    omega
  · rw [l.2.count_all, hall, List.length_append, List.length_singleton]

namespace Links

variable {includeExternal : Bool}

theorem counts_tally {t : Tally} (h : t.Counts includeExternal []) (links : Links) :
    (links.tally t).Counts includeExternal links := by
  induction links using List.reverseRecOn with
  | nil => exact h
  | append_singleton links l ih =>
    rw [tally_append]
    exact ih.concat l

/-- The tally of the files is none of the links' business. -/
theorem files_tally (t : Tally) (links : Links) : (tally t links).files = t.files := by
  induction links using List.reverseRecOn with
  | nil => rfl
  | append_singleton links l ih =>
    rw [tally_append, ← ih]
    obtain ⟨importer, link⟩ := l
    cases link <;> rfl

end Links

/-! ### The answers of the graph -/

namespace Web

/-- The answers to the edges that the imports of a file ask for, in order. -/
def answersTo (root : Path) (includeExternal : Bool) (importer : String) (w : Web) :
    List Import → List Bool
  | [] => []
  | i :: rest =>
    ((Link.ofImport w.graph root importer i).answer? includeExternal importer w.graph).toList ++
      answersTo root includeExternal importer (w.withImport root includeExternal importer i) rest

/-- The answers to all edges that the second pass asks for, in order. -/
def answers (disk : Disk) (registry : Registry) (includeExternal : Bool) (root : Path) (w : Web) :
    List Source → List Bool
  | [] => []
  | f :: rest =>
    (match Key.ofPath? root f.path with
      | none => []
      | some importer =>
        answersTo root includeExternal importer w (f.imports disk registry)) ++
      answers disk registry includeExternal root
        (withImportsOf disk registry includeExternal root w f) rest

variable {disk : Disk} {registry : Registry} {includeExternal : Bool} {root : Path}

theorem inStep_foldl_withImport (includeExternal : Bool) (root : Path) {w : Web}
    (hg : w.graph.InStep) (importer : String) (imports : List Import) :
    (imports.foldl (withImport root includeExternal importer) w).graph.InStep ∧
      ∀ k ∈ w.graph.keys,
        k ∈ (imports.foldl (withImport root includeExternal importer) w).graph.keys := by
  rw [foldl_withImport fun _ => rfl]
  exact ⟨Links.inStep_draw hg _, Links.mem_keys_draw includeExternal hg _⟩

/-- Every edge that the imports of a file ask for is accepted, and adds one to the total. -/
theorem answersTo_eq (includeExternal : Bool) (root : Path) {w : Web} (hg : w.graph.InStep)
    {importer : String} (hk : .file importer ∈ w.graph.keys) (imports : List Import) :
    ∃ n, answersTo root includeExternal importer w imports = List.replicate n true ∧
      (imports.foldl (withImport root includeExternal importer) w).graph.total =
        w.graph.total + n := by
  induction imports generalizing w with
  | nil => exact ⟨0, rfl, rfl⟩
  | cons i rest ih =>
    have hfit := Link.fits_ofImport hg hk root i
    have hg' : (w.withImport root includeExternal importer i).graph.InStep := Link.inStep_draw hg
    obtain ⟨n, hanswers, htotal⟩ := ih hg' (Link.mem_keys_draw hg hk)
    refine ⟨((Link.ofImport w.graph root importer i).ends?
      includeExternal importer).toList.length + n, ?_, ?_⟩
    · rw [answersTo, hanswers, Link.answer?_of_fits hg hfit, List.replicate_add]
      congr 1
      cases (Link.ofImport w.graph root importer i).ends? includeExternal importer <;> rfl
    · rw [List.foldl_cons, htotal, withImport, Link.total_draw hg hfit, Nat.add_assoc]

/-- The graph of a file's turn in the second pass. -/
theorem graph_withImportsOf (w : Web) {f : Source} {importer : String}
    (hkey : Key.ofPath? root f.path = some importer) :
    (withImportsOf disk registry includeExternal root w f).graph =
      ((f.imports disk registry).foldl (withImport root includeExternal importer) w).graph := by
  rw [withImportsOf_eq fun _ => rfl, foldl_withImport fun _ => rfl, linksOf, hkey]

/-- Every edge that the files ask for is accepted, once the files have their nodes. -/
theorem answers_eq (disk : Disk) (registry : Registry) (includeExternal : Bool) {w : Web}
    (hg : w.graph.InStep) (files : List Source)
    (hk : ∀ f ∈ files, ∀ key, Key.ofPath? root f.path = some key → .file key ∈ w.graph.keys) :
    ∃ n, answers disk registry includeExternal root w files = List.replicate n true ∧
      (files.foldl (withImportsOf disk registry includeExternal root) w).graph.total =
        w.graph.total + n := by
  induction files generalizing w with
  | nil => exact ⟨0, rfl, rfl⟩
  | cons f rest ih =>
    have hrest : ∀ g ∈ rest, ∀ key, Key.ofPath? root g.path = some key →
        .file key ∈ w.graph.keys := fun g hmem => hk g (List.mem_cons_of_mem f hmem)
    rw [List.foldl_cons, answers]
    cases hkey : Key.ofPath? root f.path with
    | none =>
      have hskip : withImportsOf disk registry includeExternal root w f = w := by
        rw [withImportsOf, hkey]
      rw [hskip]
      exact ih hg hrest
    | some importer =>
      have himporter := hk f List.mem_cons_self importer hkey
      obtain ⟨m, hm, hmtotal⟩ :=
        answersTo_eq includeExternal root hg himporter (f.imports disk registry)
      obtain ⟨hg', hkeys⟩ :=
        inStep_foldl_withImport includeExternal root hg importer (f.imports disk registry)
      rw [← graph_withImportsOf w hkey] at hmtotal hg' hkeys
      obtain ⟨n, hn, hntotal⟩ := ih hg' fun g hmem key hg => hkeys _ (hrest g hmem key hg)
      refine ⟨m + n, ?_, by rw [hntotal, hmtotal, Nat.add_assoc]⟩
      rw [List.replicate_add, ← hm, ← hn]

/-! ### The balance of a run -/

/-- A file of the root with one of its lines and a style that matches it. -/
def matched (registry : Registry) (root : Path) (files : List Source) :
    List (Source × String × Style) :=
  (files.filter fun f => (Key.ofPath? root f.path).isSome).flatMap fun f =>
    (f.hits registry).map fun hit => (f, hit)

/-- A web in which no import is lost. -/
structure Conserves (disk : Disk) (registry : Registry) (includeExternal : Bool) (root : Path)
    (files : List Source) (w : Web) : Prop where
  /-- The imports that the graph has counted are those of other files in it, and the external
  ones if they are asked for. -/
  drawn : w.graph.total = w.tally.internalImports - w.tally.selfImports - w.tally.outsideTargets +
    if includeExternal then w.tally.externalImports else 0
  undrawn : w.tally.selfImports + w.tally.outsideTargets ≤ w.tally.internalImports
  imports : w.tally.internalImports + w.tally.externalImports =
    ((matched registry root files).map fun m => (m.1.importsOf disk m.2).length).sum
  importLines : w.tally.importLines = (matched registry root files).length
  counted : w.tally.files = w.graph.fileCount
  fileCount : w.graph.fileCount =
    (files.filterMap fun f => Key.ofPath? root f.path).eraseDups.length
  noExternals : includeExternal = false → w.graph.externalCount = 0
  /-- No external module stands alone. -/
  imported : ∀ s, .external s ∈ w.graph.nodes →
    ∃ a ∈ w.graph.arcs, a.source = .external s ∧ 0 < a.count
  /-- Whatever edge is asked for, the graph takes it. -/
  accepted : answers disk registry includeExternal root (scanned root files) files =
    List.replicate w.graph.total true

variable {files : List Source}

/-- A file of the root has a link for every import of every match. -/
theorem length_flatMap_linksOf (g : Graph) (files : List Source) :
    (files.flatMap (linksOf disk registry root g)).length =
      ((matched registry root files).map fun m => (m.1.importsOf disk m.2).length).sum := by
  induction files with
  | nil => rfl
  | cons f rest ih =>
    rw [List.flatMap_cons, List.length_append, ih, linksOf, matched, matched]
    cases hkey : Key.ofPath? root f.path with
    | none => simp [hkey]
    | some importer =>
      simp [hkey, Source.imports, List.length_flatMap, Function.comp_def]

theorem sum_hitCount : (files.map (hitCount registry root)).sum =
    (matched registry root files).length := by
  induction files with
  | nil => rfl
  | cons f rest ih =>
    rw [List.map_cons, List.sum_cons, ih, hitCount, matched, matched]
    cases hkey : Key.ofPath? root f.path with
    | none => simp [hkey]
    | some importer => simp [hkey]

theorem fileCount_ofFiles : (ofFiles disk registry includeExternal root files).graph.fileCount =
    (scanned root files).graph.nodes.length := by
  rw [Graph.fileCount, fileNodes_ofFiles]

theorem externalCount_ofFiles :
    (ofFiles disk registry includeExternal root files).graph.externalCount =
      ((links disk registry root files).externals includeExternal).eraseDups.length := by
  have hfiles : (scanned root files).graph.nodes.filter Node.isExternal = [] := by
    apply List.filter_eq_nil_iff.2
    intro n hn
    rw [isExternal_of_mem_scanned hn]
    exact Bool.noConfusion
  rw [Graph.externalCount, nodes_ofFiles, List.filter_append, hfiles]
  simp [List.filter_map, Function.comp_def, Node.isExternal]

theorem exists_arc_of_external {s : String}
    (hs : .external s ∈ (ofFiles disk registry includeExternal root files).graph.nodes) :
    ∃ a ∈ (ofFiles disk registry includeExternal root files).graph.arcs,
      a.source = .external s ∧ 0 < a.count := by
  have hdrawn : s ∈ (links disk registry root files).externals includeExternal := by
    rw [nodes_ofFiles, List.mem_append] at hs
    obtain hscanned | hnew := hs
    · exact Bool.noConfusion (isExternal_of_mem_scanned hscanned)
    · simpa [List.mem_eraseDups] using hnew
  obtain ⟨importer, hends⟩ := Links.exists_mem_ends hdrawn
  have hpos := List.count_pos_iff.2 hends
  rw [← countOf_ofFiles] at hpos
  exact ⟨⟨_, _, _⟩, (Graph.mem_arcs (inStep_ofFiles ..)).2 ⟨hpos, rfl⟩, rfl, hpos⟩

/-- The first pass counts no import. -/
theorem counts_scanned (includeExternal : Bool) (root : Path) (files : List Source) :
    (scanned root files).tally.Counts includeExternal [] := by
  rw [tally_scanned]
  constructor <;> simp [Tally.zero, Links.ends]

/-- Whatever is imported is counted, and is drawn if it is to be drawn at all. -/
theorem conserves_ofFiles (disk : Disk) (registry : Registry) (includeExternal : Bool)
    (root : Path) (files : List Source) :
    Conserves disk registry includeExternal root files
      (ofFiles disk registry includeExternal root files) := by
  have hcounts := Links.counts_tally (counts_scanned includeExternal root files)
    (links disk registry root files)
  have htally := congrArg Web.tally (ofFiles_eq disk registry includeExternal root files)
  refine
    { drawn := ?drawn
      undrawn := ?undrawn
      imports := ?imports
      importLines := ?importLines
      counted := ?counted
      fileCount := ?fileCount
      noExternals := ?noExternals
      imported := fun s => exists_arc_of_external
      accepted := ?accepted }
  case drawn =>
    have hdrawn := hcounts.drawn
    have hundrawn := hcounts.undrawn
    rw [total_ofFiles, htally]
    dsimp only
    omega
  case undrawn =>
    rw [htally]
    exact hcounts.undrawn
  case imports =>
    rw [htally, ← length_flatMap_linksOf]
    exact hcounts.all
  case importLines =>
    rw [htally, ← sum_hitCount]
  case counted =>
    rw [htally, fileCount_ofFiles]
    dsimp only
    rw [Links.files_tally, tally_scanned]
  case fileCount =>
    rw [fileCount_ofFiles, ← List.length_map Node.key, ← Graph.keys, keys_scanned, List.length_map]
  case noExternals =>
    intro hflag
    rw [externalCount_ofFiles, hflag, Links.externals_false]
    rfl
  case accepted =>
    have hthere : ∀ f ∈ files, ∀ key, Key.ofPath? root f.path = some key →
        .file key ∈ (scanned root files).graph.keys := fun f hf key hkey =>
      mem_keys_scanned.2 ⟨f, hf, key, hkey, rfl⟩
    obtain ⟨n, hanswers, hn⟩ :=
      answers_eq disk registry includeExternal (inStep_scanned root files) files hthere
    rw [hanswers, ofFiles, ← scanned, hn, total_scanned, Nat.zero_add]

end Web

end ImportWeb
