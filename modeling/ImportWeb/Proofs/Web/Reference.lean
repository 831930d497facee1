import Mathlib.Algebra.BigOperators.Group.List.Lemmas
import ImportWeb.Proofs.Path.Key
import ImportWeb.Proofs.Web.Passes

/-!
What the web of a project is, said without running it. Each file is a node, each external module
that some line imports is one if that is asked for, and an edge between two nodes counts the
places in the second one's text that import the first one. A run makes this web just when the keys
tell the files apart. Those of texts do; paths that are not text may share a key.
-/

namespace ImportWeb

open Text

variable {P : Type}

/-! ### The imports of a file, counted -/

namespace Source

/-- How often an import is found in a file: on its lines, by the styles for its extension that
match the line. -/
def times [DecidableEq P] (finder : Finder P) (registry : Registry) (f : Source P)
    (i : Import P) : Nat :=
  (f.lines.map fun line =>
    (((registry.applicable f.extension).filter (·.isMatch line)).map fun style =>
      (finder.importsOn style f.path line).count i).sum).sum

variable {finder : Finder P} {registry : Registry} {f : Source P} {i : Import P}

theorem mem_imports : i ∈ f.imports finder registry ↔
    ∃ line ∈ f.lines, ∃ style ∈ registry.applicable f.extension,
      style.isMatch line = true ∧ i ∈ finder.importsOn style f.path line := by
  simp only [imports, hits, importsOf, List.mem_flatMap, List.mem_map, List.mem_filter]
  constructor
  · rintro ⟨_, ⟨line, hline, style, ⟨hstyle, hmatch⟩, rfl⟩, hi⟩
    exact ⟨line, hline, style, hstyle, hmatch, hi⟩
  · rintro ⟨line, hline, style, hstyle, hmatch, hi⟩
    exact ⟨_, ⟨line, hline, style, ⟨hstyle, hmatch⟩, rfl⟩, hi⟩

theorem count_imports [DecidableEq P] :
    (f.imports finder registry).count i = f.times finder registry i := by
  simp only [imports, hits, times, List.flatMap_assoc, List.count_flatMap, List.flatMap_map]
  congr 1
  apply List.map_congr_left
  intro line _
  exact List.count_flatMap

/-- An imported file is told by a clean path. -/
theorem exists_clean_of_mem_imports {disk : Disk} {f : Source} {p : Path}
    (h : .file p ∈ f.imports disk registry) : ∃ q : Path, p = q.clean := by
  obtain ⟨line, -, style, -, -, hi⟩ := mem_imports.1 h
  obtain ⟨token, -, htoken⟩ := List.mem_map.1 hi
  unfold Layout.resolve at htoken
  split at htoken
  case h_1 path hpath =>
    split at htoken
    case isTrue =>
      cases htoken
      simp only [Layout.candidate?, Option.bind_eq_bind, Option.bind_eq_some_iff] at hpath
      obtain ⟨directory, -, target, -, heq⟩ := hpath
      exact ⟨_, (Option.some.inj heq).symm⟩
    case isFalse => cases htoken
  case h_2 => cases htoken

end Source

/-! ### What is promised of the files -/

namespace Source

section
variable [FilePath P] {root : P} {files : List (Source P)} {f k : Source P} {a : String}

/-- No two files have the same key. -/
def DistinctKeys (root : P) (files : List (Source P)) : Prop :=
  (files.map fun f => Key.ofPath? root f.path).Nodup

theorem DistinctKeys.nodup (h : DistinctKeys root files) : files.Nodup := List.Nodup.of_map _ h

/-- A file is the only one of its key. -/
theorem DistinctKeys.eq_of_key_eq (h : DistinctKeys root files) (hf : f ∈ files) (hk : k ∈ files)
    (hfkey : Key.ofPath? root f.path = some a) (hkkey : Key.ofPath? root k.path = some a) :
    k = f := List.inj_on_of_nodup_map h hk hf (hkkey.trans hfkey.symm)

/-- The keys of the files, in their order, come without repetition. -/
theorem DistinctKeys.filterMap (h : DistinctKeys root files) :
    (files.filterMap fun f => Key.ofPath? root f.path).Nodup := by
  apply List.pairwise_filterMap.2
  refine h.nodup.imp_of_mem fun hf hk hne a ha b hb hab => ?_
  subst hab
  exact hne (h.eq_of_key_eq hk hf hb ha)

/-- Files that are told by their keys. -/
structure ToldByKeys (finder : Finder P) (registry : Registry) (root : P)
    (files : List (Source P)) : Prop where
  distinct : DistinctKeys root files
  /-- What one of them imports has the key of another one only if it is that one. -/
  imports : ∀ f ∈ files, ∀ p, .file p ∈ f.imports finder registry → ∀ k ∈ files, k ≠ f →
    Key.ofPath? root p = Key.ofPath? root k.path → p = k.path

end

/-- Files with clean paths of their own, all below a clean root. -/
structure Proper (root : Path) (files : List Source) : Prop where
  root_absolute : root.isAbsolute = true
  root_clean : root.clean = root
  absolute : ∀ f ∈ files, f.path.isAbsolute = true
  clean : ∀ f ∈ files, f.path.clean = f.path
  below : ∀ f ∈ files, root.IsBelow f.path
  distinct : (files.map Source.path).Nodup

namespace Proper

variable {root : Path} {files : List Source} {f : Source}

theorem exists_key (h : Proper root files) (hf : f ∈ files) :
    ∃ key, Key.ofPath? root f.path = some key ∧ root.push key.toList = f.path :=
  Key.exists_ofPath? h.root_absolute h.root_clean (h.absolute f hf) (h.clean f hf) (h.below f hf)

theorem keyed (h : Proper root files) : ∀ f ∈ files, ∃ key, Key.ofPath? root f.path = some key :=
  fun _ hf => (h.exists_key hf).imp fun _ hkey => hkey.1

theorem distinctKeys (h : Proper root files) : DistinctKeys root files := by
  refine (List.Nodup.of_map _ h.distinct).map_on fun f hf k hk hkeys => ?_
  obtain ⟨a, ha, -⟩ := h.exists_key hk
  have hfa : Key.ofPath? root f.path = some a := hkeys.trans ha
  rw [← h.clean f hf] at hfa
  rw [← h.clean k hk] at ha
  have hpath := Key.clean_eq_of_ofPath? hfa ha
  rw [h.clean f hf, h.clean k hk] at hpath
  exact List.inj_on_of_nodup_map h.distinct hf hk hpath

/-- The keys of texts tell files apart, and what is imported is told by a clean path. -/
theorem toldByKeys (h : Proper root files) (disk : Disk) (registry : Registry) :
    ToldByKeys disk.finder registry root files := by
  refine ⟨h.distinctKeys, fun f _ p hp k hk _ hkeys => ?_⟩
  obtain ⟨q, rfl⟩ := exists_clean_of_mem_imports hp
  obtain ⟨a, ha, -⟩ := h.exists_key hk
  have hqa : Key.ofPath? root q.clean = some a := hkeys.trans ha
  rw [← h.clean k hk] at ha ⊢
  exact Key.clean_eq_of_ofPath? hqa ha

end Proper

end Source

/-! ### The edges, counted -/

namespace Web

section
variable [FilePath P] {finder : Finder P} {registry : Registry} {includeExternal : Bool} {root : P}
  {files : List (Source P)} {f k : Source P} {a b : String}

/-- Only the file itself asks for edges that lead to it. -/
theorem count_ends_links (h : Source.DistinctKeys root files) (hf : f ∈ files)
    (hb : Key.ofPath? root f.path = some b) (source : Key) :
    ((links finder registry root files).ends includeExternal).count (source, .file b) =
      ((linksOf finder registry root (scanned root files).graph f).ends includeExternal).count
        (source, .file b) := by
  have hother : ∀ f', f' ≠ f → f' ∈ files →
      ((linksOf finder registry root (scanned root files).graph f').ends includeExternal).count
        (source, .file b) = 0 := by
    intro f' hne hf'
    rw [List.count_eq_zero]
    intro hmem
    obtain ⟨l, hl, hends⟩ := List.mem_filterMap.1 hmem
    obtain ⟨b', hb', i, -, rfl⟩ := mem_linksOf.1 hl
    have hbb : b = b' := Key.file.inj (Link.target_of_ends? hends)
    exact hne (h.eq_of_key_eq hf hf' hb (hbb ▸ hb'))
  unfold links Links.ends at *
  rw [List.filterMap_flatMap, List.count_flatMap]
  classical
  have hsum := List.sum_map_eq_nsmul_single f _ hother
  rw [List.count_eq_one_of_mem h.nodup hf, one_nsmul] at hsum
  exact hsum

/-- An edge to a file counts the imports of that file that ask for it. -/
theorem countOf_eq_countP (h : Source.DistinctKeys root files) (hf : f ∈ files)
    (hb : Key.ofPath? root f.path = some b) (source : Key) :
    (ofFiles finder registry includeExternal root files).graph.countOf source (.file b) =
      (f.imports finder registry).countP fun i =>
        (Link.ofImport (scanned root files).graph root b i).ends? includeExternal b ==
          some (source, .file b) := by
  rw [countOf_ofFiles, count_ends_links h hf hb, ends_linksOf hb, List.count_filterMap]

/-- An import by one file comes to another one just when it has the key of that. -/
theorem ofImport_eq_file_iff_key (h : Source.DistinctKeys root files) (hf : f ∈ files)
    (hk : k ∈ files) (hne : k ≠ f) (ha : Key.ofPath? root k.path = some a)
    (hb : Key.ofPath? root f.path = some b) {i : Import P} :
    Link.ofImport (scanned root files).graph root b i = .file a ↔
      ∃ p, i = .file p ∧ Key.ofPath? root p = some a := by
  rw [Link.ofImport_eq_file_iff]
  constructor
  · rintro ⟨p, hi, hp, -, -⟩
    exact ⟨p, hi, hp⟩
  · rintro ⟨p, hi, hp⟩
    refine ⟨p, hi, hp, ?_, ?_⟩
    · exact (inStep_scanned root files).contains_iff.2 (mem_keys_scanned.2 ⟨k, hk, a, ha, rfl⟩)
    · rintro rfl
      exact hne (h.eq_of_key_eq hf hk hb ha)

/-- An edge between files counts the imports of the one that have the key of the other. -/
theorem countOf_files_eq_countP (h : Source.DistinctKeys root files) (hf : f ∈ files)
    (hk : k ∈ files) (hne : k ≠ f) (ha : Key.ofPath? root k.path = some a)
    (hb : Key.ofPath? root f.path = some b) :
    (ofFiles finder registry includeExternal root files).graph.countOf (.file a) (.file b) =
      (f.imports finder registry).countP fun
        | .file p => Key.ofPath? root p = some a
        | .external _ => false := by
  rw [countOf_eq_countP h hf hb]
  apply List.countP_congr
  intro i _
  rw [beq_iff_eq, Link.ends?_eq_file_iff, ofImport_eq_file_iff_key h hf hk hne ha hb]
  cases i <;> simp

theorem countOf_files [DecidableEq P] (h : Source.ToldByKeys finder registry root files)
    (hf : f ∈ files) (hk : k ∈ files) (hne : k ≠ f) (ha : Key.ofPath? root k.path = some a)
    (hb : Key.ofPath? root f.path = some b) :
    (ofFiles finder registry includeExternal root files).graph.countOf (.file a) (.file b) =
      f.times finder registry (.file k.path) := by
  rw [countOf_files_eq_countP h.distinct hf hk hne ha hb, ← Source.count_imports,
    List.count_eq_countP]
  apply List.countP_congr
  intro i hi
  cases i with
  | external t => simp
  | file p =>
    rw [decide_eq_true_iff, beq_iff_eq, Import.file.injEq, ← ha]
    exact ⟨h.imports f hf p hi k hk hne, fun hp => by rw [hp]⟩

theorem countOf_external [DecidableEq P] (h : Source.DistinctKeys root files) (hf : f ∈ files)
    (hb : Key.ofPath? root f.path = some b) (t : String) :
    (ofFiles finder registry includeExternal root files).graph.countOf (.external t) (.file b) =
      if includeExternal then f.times finder registry (.external t) else 0 := by
  rw [countOf_eq_countP h hf hb]
  cases includeExternal with
  | false =>
    apply List.countP_eq_zero.2
    intro i _
    simp
  | true =>
    rw [if_pos rfl, ← Source.count_imports, List.count_eq_countP]
    apply List.countP_congr
    intro i _
    rw [beq_iff_eq, beq_iff_eq, Link.ends?_eq_external_iff, Link.ofImport_eq_external_iff]
    exact and_iff_right rfl

/-- An edge is there because of an import by the file that it leads to. -/
theorem exists_import_of_mem_arcs {x : Arc}
    (hx : x ∈ (ofFiles finder registry includeExternal root files).graph.arcs) :
    ∃ f ∈ files, ∃ importer, Key.ofPath? root f.path = some importer ∧ x.target = .file importer ∧
      ∃ i ∈ f.imports finder registry,
        (Link.ofImport (scanned root files).graph root importer i).ends? includeExternal importer =
          some (x.source, .file importer) := by
  obtain ⟨hpos, hcount⟩ := (Graph.mem_arcs (inStep_ofFiles ..)).1 hx
  rw [← hcount, countOf_ofFiles, List.count_pos_iff] at hpos
  obtain ⟨l, hl, hends⟩ := List.mem_filterMap.1 hpos
  obtain ⟨f, hf, importer, hkey, i, hi, rfl⟩ := mem_links.1 hl
  have htarget : x.target = .file importer := Link.target_of_ends? hends
  exact ⟨f, hf, importer, hkey, htarget, i, hi, htarget ▸ hends⟩

/-- Every edge leads to a file, from another one or from an external module. -/
theorem ends_of_mem_arcs {x : Arc}
    (hx : x ∈ (ofFiles finder registry includeExternal root files).graph.arcs) :
    ∃ f ∈ files, ∃ b, Key.ofPath? root f.path = some b ∧ x.target = .file b ∧
      ((∃ k ∈ files, k ≠ f ∧ ∃ a, Key.ofPath? root k.path = some a ∧ x.source = .file a) ∨
        includeExternal = true ∧ ∃ t, x.source = .external t) := by
  obtain ⟨f, hf, b, hb, htarget, i, -, hends⟩ := exists_import_of_mem_arcs hx
  refine ⟨f, hf, b, hb, htarget, ?_⟩
  cases hsource : x.source with
  | file a =>
    rw [hsource, Link.ends?_eq_file_iff, Link.ofImport_eq_file_iff] at hends
    obtain ⟨-, -, -, hthere, hne⟩ := hends
    obtain ⟨k, hk, a', ha, haa⟩ :=
      mem_keys_scanned.1 ((inStep_scanned root files).contains_iff.1 hthere)
    cases haa
    refine .inl ⟨k, hk, ?_, a, ha, rfl⟩
    rintro rfl
    exact hne (Option.some.inj (ha.symm.trans hb))
  | external t =>
    rw [hsource, Link.ends?_eq_external_iff] at hends
    exact .inr ⟨hends.1, t, rfl⟩

/-! ### The nodes -/

/-- Every file has its node, in the order of the files. -/
theorem nodes_scanned (hkeyed : ∀ f ∈ files, ∃ key, Key.ofPath? root f.path = some key)
    (h : Source.DistinctKeys root files) :
    (scanned root files).graph.nodes.map some = files.map (fileNode? root) := by
  rw [nodes_scanned_of_nodup h.filterMap]
  clear h
  induction files with
  | nil => rfl
  | cons f rest ih =>
    obtain ⟨⟨key, hkey⟩, hrest⟩ := List.forall_mem_cons.1 hkeyed
    have hn : fileNode? root f = some (.file ⟨key, FilePath.raw f.path, f.lineCount⟩) := by
      rw [fileNode?, hkey]
      rfl
    rw [List.filterMap_cons_some hn, List.map_cons, List.map_cons, hn, ih hrest]

theorem mem_externals_iff (hkeyed : ∀ f ∈ files, ∃ key, Key.ofPath? root f.path = some key)
    {t : String} :
    t ∈ (links finder registry root files).externals includeExternal ↔
      includeExternal = true ∧ ∃ f ∈ files, .external t ∈ f.imports finder registry := by
  unfold Links.externals
  rw [List.mem_filterMap]
  constructor
  · rintro ⟨l, hl, ht⟩
    obtain ⟨f, hf, b, hb, i, hi, rfl⟩ := mem_links.1 hl
    rw [Link.drawnExternal?_eq_some_iff, Link.ofImport_eq_external_iff] at ht
    obtain ⟨hflag, rfl⟩ := ht
    exact ⟨hflag, f, hf, hi⟩
  · rintro ⟨rfl, f, hf, hi⟩
    obtain ⟨b, hb⟩ := hkeyed f hf
    exact ⟨_, mem_links.2 ⟨f, hf, b, hb, _, hi, rfl⟩, rfl⟩

/-! ### The web, told from the files -/

variable [DecidableEq P]

/-- The web that the imports of the files make. -/
structure IsWebOf (finder : Finder P) (registry : Registry) (includeExternal : Bool) (root : P)
    (files : List (Source P)) (g : Graph) : Prop where
  /-- Every file has a key, made of the names that lead to it from the root. -/
  keyed : ∀ f ∈ files, ∃ names : List (List UInt8),
    (FilePath.raw f.path).components = (FilePath.raw root).components ++ names.map .name ∧
      Key.ofPath? root f.path = some (String.ofList (joinWith ['/'] (names.map decode)))
  /-- The nodes are those of the files, one for each of them, and then external modules, -/
  nodes : ∃ externals : List String,
    g.nodes.map some = files.map (fileNode? root) ++ externals.map fun t => some (.external t)
  /-- all with keys of their own. -/
  distinct : g.keys.Nodup
  /-- The external modules are those that some line imports, if they are asked for. -/
  externals : ∀ t, .external t ∈ g.nodes ↔ includeExternal = true ∧
    ∃ f ∈ files, ∃ line ∈ f.lines, ∃ style ∈ registry.applicable f.extension,
      style.isMatch line = true ∧ .external t ∈ finder.importsOn style f.path line
  /-- An edge counts how often one file imports another one, -/
  fileEdges : ∀ f ∈ files, ∀ k ∈ files, k ≠ f → ∀ a b, Key.ofPath? root k.path = some a →
    Key.ofPath? root f.path = some b →
      g.countOf (.file a) (.file b) = f.times finder registry (.file k.path)
  /-- or an external module. -/
  externalEdges : ∀ f ∈ files, ∀ b, Key.ofPath? root f.path = some b → ∀ t,
    g.countOf (.external t) (.file b) =
      if includeExternal then f.times finder registry (.external t) else 0
  /-- There are no other edges, -/
  ends : ∀ x ∈ g.arcs, ∃ f ∈ files, ∃ b, Key.ofPath? root f.path = some b ∧ x.target = .file b ∧
    ((∃ k ∈ files, k ≠ f ∧ ∃ a, Key.ofPath? root k.path = some a ∧ x.source = .file a) ∨
      includeExternal = true ∧ ∃ t, x.source = .external t)
  /-- none where the count is zero, -/
  counts : ∀ a b n, ⟨a, b, n⟩ ∈ g.arcs ↔ 0 < n ∧ n = g.countOf a b
  /-- and between two nodes not more than one. -/
  single : (g.arcs.map Arc.ends).Nodup
  joined : g.arcs.length = g.edgeCount

/-- A run on files that are told by their keys makes the web of their imports. -/
theorem isWebOf_of_toldByKeys (includeExternal : Bool)
    (hkeyed : ∀ f ∈ files, ∃ key, Key.ofPath? root f.path = some key)
    (h : Source.ToldByKeys finder registry root files) :
    IsWebOf finder registry includeExternal root files
      (ofFiles finder registry includeExternal root files).graph := by
  have hg := inStep_ofFiles finder registry includeExternal root files
  refine
    { keyed := ?keyed
      nodes := ?nodes
      distinct := hg.nodup_keys
      externals := ?externals
      fileEdges := fun f hf k hk hne a b ha hb => countOf_files h hf hk hne ha hb
      externalEdges := fun f hf b hb t => countOf_external h.distinct hf hb t
      ends := fun x hx => ends_of_mem_arcs hx
      counts := ?counts
      single := Graph.nodup_ends_arcs hg
      joined := Graph.length_arcs hg }
  case keyed =>
    intro f hf
    obtain ⟨key, hkey⟩ := hkeyed f hf
    obtain ⟨names, -, hnames, rfl⟩ := Key.ofPath?_eq_some_iff_raw.1 hkey
    exact ⟨names, hnames, hkey⟩
  case nodes =>
    refine ⟨((links finder registry root files).externals includeExternal).eraseDups, ?_⟩
    rw [nodes_ofFiles, List.map_append, nodes_scanned hkeyed h.distinct, List.map_map]
    rfl
  case externals =>
    intro t
    have hscanned : .external t ∉ (scanned root files).graph.nodes := fun hmem =>
      external_not_mem_scanned t (List.mem_map_of_mem hmem)
    rw [nodes_ofFiles, List.mem_append, or_iff_right hscanned]
    simp only [List.mem_map, Node.external.injEq, exists_eq_right, List.mem_eraseDups,
      mem_externals_iff hkeyed, Source.mem_imports]
  case counts =>
    intro a b n
    rw [Graph.mem_arcs hg, eq_comm (a := n)]

end

end Web

end ImportWeb
