import ImportWeb.Proofs.Web.Edges

/-!
Files taken out. What an import comes to is decided on disk, apart from whether its file has a
node, so an import of a file that is taken out comes to nothing and every other import of the
files that are kept comes to what it came to before. The web that is left has the files kept, the
edges between nodes kept, and the external modules from which one of these edges starts.
-/

namespace ImportWeb

/-- Whether a node of the key can stay when only some of the files are kept. -/
def Key.isKept (kept : String → Bool) : Key → Bool
  | file key => kept key
  | external _ => true

/-- Whether an edge between two nodes can stay. -/
def Key.areKept (kept : String → Bool) (p : Key × Key) : Bool := p.1.isKept kept && p.2.isKept kept

namespace Graph

/-- The files of `g'` are the files kept of `g`. -/
def KeepsFiles (kept : String → Bool) (g' g : Graph) : Prop :=
  ∀ key, g'.contains (.file key) = (g.contains (.file key) && kept key)

end Graph

/-! ### Links -/

namespace Link

/-- What is left of a link when only some of the files are kept. -/
def cut (kept : String → Bool) : Link → Link
  | file key => if kept key then file key else outside
  | link => link

variable {kept : String → Bool} {g g' : Graph} {importer : String}

theorem ofImport_cut (h : g'.KeepsFiles kept g) (hkept : kept importer = true) (root : Path)
    (i : Import) : ofImport g' root importer i = (ofImport g root importer i).cut kept := by
  cases i with
  | external specifier => rfl
  | file path =>
    simp only [ofImport]
    cases Key.ofPath? root path with
    | none => rfl
    | some key =>
      dsimp only
      rw [h key]
      cases g.contains (.file key) with
      | false => rfl
      | true =>
        by_cases hself : key = importer
        · simp [hself, hkept, cut]
        · simp [hself, cut]

theorem ends?_cut (hkept : kept importer = true) (includeExternal : Bool) (link : Link) :
    (link.cut kept).ends? includeExternal importer =
      (link.ends? includeExternal importer).filter (Key.areKept kept) := by
  cases link with
  | file key =>
    rw [cut, ends?, Option.filter_some, Key.areKept, Key.isKept, Key.isKept, hkept, Bool.and_true]
    cases kept key <;> rfl
  | external specifier =>
    cases includeExternal with
    | false => rfl
    | true => simp [cut, ends?, Option.filter_some, Key.areKept, Key.isKept, hkept]
  | self => rfl
  | outside => rfl

/-- A file that is taken out takes the edges that lead to it along. -/
theorem filter_ends?_of_not_kept (hkept : kept importer = false) (includeExternal : Bool)
    (link : Link) : (link.ends? includeExternal importer).filter (Key.areKept kept) = none := by
  rw [Option.filter_eq_none_iff]
  intro p hp
  simp [Key.areKept, target_of_ends? hp, Key.isKept, hkept]

end Link

/-! ### The web of the files kept -/

namespace Graph

/-- `g'` is what is left of `g` when only some of the files are kept. -/
structure IsCut (kept : String → Bool) (g' g : Graph) : Prop where
  /-- The files are those kept, as they were and in their order. -/
  fileNodes : g'.nodes.filter (fun n => ! n.isExternal) =
    g.nodes.filter fun n => ! n.isExternal && n.key.isKept kept
  /-- The external modules are those from which an edge leads to a file that is kept. -/
  externals : ∀ t, .external t ∈ g'.nodes ↔
    ∃ x ∈ g.arcs, x.source = .external t ∧ ∃ b, x.target = .file b ∧ kept b = true
  distinct : g'.keys.Nodup
  /-- The edges are those between nodes that are kept, with their counts and in their order, -/
  arcs : g'.arcs = g.arcs.filter fun x => Key.areKept kept x.ends
  /-- and there are no others. -/
  edgeCount : g'.edgeCount = (g.arcs.filter fun x => Key.areKept kept x.ends).length
  /-- An import by a file that is kept comes to what it came to, unless it came to a file that
  is not kept. -/
  links : ∀ (root : Path) importer i, kept importer = true →
    Link.ofImport g' root importer i = (Link.ofImport g root importer i).cut kept

end Graph

namespace Web

variable {disk : Disk} {registry : Registry} {includeExternal : Bool} {root : Path}
  {kept : String → Bool}

/-- Whether a file below the root is kept. -/
def isKept (kept : String → Bool) (root : Path) (f : Source) : Bool :=
  (Key.ofPath? root f.path).any kept

theorem nodes_scanned_filter (kept : String → Bool) (root : Path) (files : List Source) :
    (scanned root (files.filter (isKept kept root))).graph.nodes =
      (scanned root files).graph.nodes.filter fun n => n.key.isKept kept := by
  have hfiles : (files.filter (isKept kept root)).filterMap (fileNode? root) =
      (files.filterMap (fileNode? root)).filter fun n => n.key.isKept kept := by
    rw [List.filterMap_filter, List.filter_filterMap]
    refine List.filterMap_congr fun f _ => ?_
    rw [isKept, fileNode?]
    cases Key.ofPath? root f.path with
    | none => rfl
    | some key => simp [Option.filter_some, Node.key, Key.isKept]
  rw [graph_scanned, graph_scanned, hfiles, Graph.nodes_build_filter]

theorem keepsFiles_scanned (kept : String → Bool) (root : Path) (files : List Source) :
    (scanned root (files.filter (isKept kept root))).graph.KeepsFiles kept
      (scanned root files).graph := by
  intro key
  rw [Bool.eq_iff_iff, Bool.and_eq_true, (inStep_scanned ..).contains_iff,
    (inStep_scanned ..).contains_iff, Graph.keys, nodes_scanned_filter, Graph.keys]
  simp only [List.mem_map, List.mem_filter]
  constructor
  · rintro ⟨n, ⟨hn, hkept⟩, hkey⟩
    exact ⟨⟨n, hn, hkey⟩, by rwa [hkey] at hkept⟩
  · rintro ⟨⟨n, hn, hkey⟩, hkept⟩
    exact ⟨n, ⟨hn, by rwa [hkey]⟩, hkey⟩

theorem ends_linksOf_of_kept {g g' : Graph} (h : g'.KeepsFiles kept g) {f : Source}
    (hf : isKept kept root f = true) :
    (linksOf disk registry root g' f).ends includeExternal =
      ((linksOf disk registry root g f).ends includeExternal).filter (Key.areKept kept) := by
  obtain ⟨importer, hkey, hkept⟩ := (Option.any_eq_true _ _).1 hf
  rw [ends_linksOf hkey, ends_linksOf hkey, List.filter_filterMap]
  refine List.filterMap_congr fun i _ => ?_
  rw [Link.ofImport_cut h hkept, Link.ends?_cut hkept]

theorem filter_ends_linksOf_of_not_kept (g : Graph) {f : Source} (hf : isKept kept root f = false) :
    ((linksOf disk registry root g f).ends includeExternal).filter (Key.areKept kept) = [] := by
  cases hkey : Key.ofPath? root f.path with
  | none =>
    rw [linksOf, hkey]
    rfl
  | some importer =>
    rw [isKept, hkey, Option.any_some] at hf
    rw [ends_linksOf hkey, List.filter_filterMap, List.filterMap_eq_nil_iff]
    exact fun i _ => Link.filter_ends?_of_not_kept hf includeExternal _

/-- The files kept ask for the edges between nodes that are kept. -/
theorem ends_flatMap_filter {g g' : Graph} (h : g'.KeepsFiles kept g) (files : List Source) :
    Links.ends includeExternal ((files.filter (isKept kept root)).flatMap
        (linksOf disk registry root g')) =
      (Links.ends includeExternal (files.flatMap (linksOf disk registry root g))).filter
        (Key.areKept kept) := by
  induction files with
  | nil => rfl
  | cons f rest ih =>
    rw [List.flatMap_cons, Links.ends_append, List.filter_append, ← ih]
    cases hf : isKept kept root f with
    | true =>
      rw [List.filter_cons_of_pos hf, List.flatMap_cons, Links.ends_append,
        ends_linksOf_of_kept h hf]
    | false =>
      rw [List.filter_cons_of_neg (Bool.eq_false_iff.1 hf), filter_ends_linksOf_of_not_kept g hf,
        List.nil_append]

theorem ends_links_filter (disk : Disk) (registry : Registry) (includeExternal : Bool)
    (kept : String → Bool) (root : Path) (files : List Source) :
    (links disk registry root (files.filter (isKept kept root))).ends includeExternal =
      ((links disk registry root files).ends includeExternal).filter (Key.areKept kept) :=
  ends_flatMap_filter (keepsFiles_scanned kept root files) files

/-- The web of the files kept is what is left of the web of all files. -/
theorem isCut_ofFiles (disk : Disk) (registry : Registry) (includeExternal : Bool)
    (kept : String → Bool) (root : Path) (files : List Source) :
    Graph.IsCut kept
      (ofFiles disk registry includeExternal root (files.filter (isKept kept root))).graph
      (ofFiles disk registry includeExternal root files).graph := by
  have hg := inStep_ofFiles disk registry includeExternal root (files.filter (isKept kept root))
  have harcs : (ofFiles disk registry includeExternal root
      (files.filter (isKept kept root))).graph.arcs =
        (ofFiles disk registry includeExternal root files).graph.arcs.filter fun x =>
          Key.areKept kept x.ends := by
    rw [arcs_ofFiles, arcs_ofFiles, ends_links_filter, Graph.arcsOf_filter]
  refine
    { fileNodes := ?fileNodes
      externals := ?externals
      distinct := hg.nodup_keys
      arcs := harcs
      edgeCount := ?edgeCount
      links := ?links }
  case fileNodes =>
    rw [fileNodes_ofFiles, nodes_scanned_filter, ← fileNodes_ofFiles disk registry includeExternal,
      List.filter_filter]
    simp only [Bool.and_comm]
  case externals =>
    intro t
    rw [external_mem_nodes_iff, Links.mem_externals_iff, ends_links_filter, arcs_ofFiles]
    constructor
    · rintro ⟨b, hb⟩
      obtain ⟨hends, hkept⟩ := List.mem_filter.1 hb
      obtain ⟨x, hx, hxends⟩ := Graph.exists_mem_arcsOf.2 hends
      exact ⟨x, hx, congrArg Prod.fst hxends, b, congrArg Prod.snd hxends, hkept⟩
    · rintro ⟨x, hx, hsource, b, htarget, hkept⟩
      have hxends : x.ends = (.external t, .file b) := Prod.ext hsource htarget
      exact ⟨b, List.mem_filter.2 ⟨Graph.exists_mem_arcsOf.1 ⟨x, hx, hxends⟩, hkept⟩⟩
  case edgeCount =>
    rw [← harcs, Graph.length_arcs hg]
    rfl
  case links =>
    -- The second pass leaves the files alone, so those of the first pass decide.
    intro root' importer i hkept
    refine Link.ofImport_cut (fun key => ?_) hkept root' i
    rw [sameFiles_ofFiles, sameFiles_ofFiles, keepsFiles_scanned]

end Web

end ImportWeb
