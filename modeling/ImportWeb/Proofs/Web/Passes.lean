import ImportWeb.Proofs.Web.Drawing

/-!
The two passes of a run. The first one makes the nodes of the files, and the second one never
adds or takes away a file. So what an import comes to can be told from the nodes of the first
pass alone, and the second pass draws and counts a list of links that is fixed before it starts.
-/

namespace ImportWeb

variable {P : Type} [FilePath P]

/-! ### The first pass -/

namespace Web

/-- The node of a file below the root. -/
def fileNode? (root : P) (f : Source P) : Option Node :=
  (Key.ofPath? root f.path).map fun key => .file ⟨key, FilePath.raw f.path, f.lineCount⟩

/-- The web of the files before their imports are looked at. -/
def scanned (root : P) (files : List (Source P)) : Web := files.foldl (withFile root) empty

variable {root : P} {files : List (Source P)}

theorem scanned_concat (f : Source P) :
    scanned root (files ++ [f]) = (scanned root files).withFile root f := List.foldl_concat ..

theorem graph_withFile (w : Web) (f : Source P) :
    (w.withFile root f).graph = (fileNode? root f).elim w.graph w.graph.addNode := by
  rw [withFile, fileNode?]
  cases Key.ofPath? root f.path with
  | none => rfl
  | some key =>
    by_cases hk : w.graph.contains (.file key) = true
    · simp [hk, Graph.addNode, Node.key]
    · simp [hk]

theorem graph_scanned (root : P) (files : List (Source P)) :
    (scanned root files).graph =
      Graph.build ((files.filterMap (fileNode? root)).map Call.node) := by
  induction files using List.reverseRecOn with
  | nil => rfl
  | append_singleton files f ih =>
    rw [scanned_concat, graph_withFile, ih, List.filterMap_append]
    cases hf : fileNode? root f with
    | none => simp [hf]
    | some n =>
      have hone : [f].filterMap (fileNode? root) = [n] := by simp [hf]
      rw [hone, List.map_append, List.map_singleton, Graph.build_concat]
      rfl

theorem inStep_scanned (root : P) (files : List (Source P)) :
    (scanned root files).graph.InStep := by
  rw [graph_scanned]
  exact Graph.inStep_build _

theorem keys_fileNodes (root : P) (files : List (Source P)) :
    (files.filterMap (fileNode? root)).map Node.key =
      (files.filterMap fun f => Key.ofPath? root f.path).map Key.file := by
  rw [List.map_filterMap, List.map_filterMap]
  apply List.filterMap_congr
  intro f _
  rw [fileNode?, Option.map_map]
  rfl

theorem keys_scanned (root : P) (files : List (Source P)) :
    (scanned root files).graph.keys =
      (files.filterMap fun f => Key.ofPath? root f.path).eraseDups.map Key.file := by
  have hoffered : ∀ nodes : List Node, Graph.offered (nodes.map Call.node) = nodes := by
    intro nodes
    rw [Graph.offered, List.filterMap_map]
    exact List.filterMap_some
  have hinj : Function.Injective Key.file := fun _ _ h => Key.file.inj h
  rw [graph_scanned, Graph.keys_build, Graph.arrivals, hoffered, keys_fileNodes,
    eraseDups_map hinj]

theorem mem_keys_scanned {k : Key} :
    k ∈ (scanned root files).graph.keys ↔
      ∃ f ∈ files, ∃ key, Key.ofPath? root f.path = some key ∧ k = .file key := by
  rw [keys_scanned, List.mem_map]
  constructor
  · rintro ⟨key, hkey, rfl⟩
    obtain ⟨f, hf, hpath⟩ := List.mem_filterMap.1 (List.mem_eraseDups.1 hkey)
    exact ⟨f, hf, key, hpath, rfl⟩
  · rintro ⟨f, hf, key, hpath, rfl⟩
    exact ⟨key, List.mem_eraseDups.2 (List.mem_filterMap.2 ⟨f, hf, hpath⟩), rfl⟩

theorem external_not_mem_scanned (s : String) :
    .external s ∉ (scanned root files).graph.keys := by
  intro h
  obtain ⟨f, -, key, -, heq⟩ := mem_keys_scanned.1 h
  cases heq

theorem isExternal_of_mem_scanned {n : Node} (hn : n ∈ (scanned root files).graph.nodes) :
    n.isExternal = false := by
  cases n with
  | file info => rfl
  | external specifier =>
    exact absurd (List.mem_map_of_mem hn) (external_not_mem_scanned specifier)

/-- Files of different keys all have their nodes. -/
theorem nodes_scanned_of_nodup (h : (files.filterMap fun f => Key.ofPath? root f.path).Nodup) :
    (scanned root files).graph.nodes = files.filterMap (fileNode? root) := by
  have hkeys : ((files.filterMap (fileNode? root)).map Node.key).Nodup := by
    rw [keys_fileNodes]
    exact h.map fun _ _ hab => Key.file.inj hab
  rw [graph_scanned, Graph.nodes_build_of_nodup hkeys]

theorem edges_scanned (root : P) (files : List (Source P)) :
    (scanned root files).graph.edges = [] := by
  induction files using List.reverseRecOn with
  | nil => rfl
  | append_singleton files f ih =>
    rw [scanned_concat, graph_withFile]
    cases fileNode? root f with
    | none => exact ih
    | some n => exact (Graph.edges_addNode _ n).trans ih

theorem total_scanned (root : P) (files : List (Source P)) :
    (scanned root files).graph.total = 0 := by
  rw [Graph.total, edges_scanned]
  rfl

theorem countOf_scanned (a b : Key) : (scanned root files).graph.countOf a b = 0 := by
  rw [Graph.countOf, edges_scanned]
  split <;> rfl

/-- The first pass counts a file for every node. -/
theorem tally_scanned (root : P) (files : List (Source P)) :
    (scanned root files).tally =
      { Tally.zero with files := (scanned root files).graph.nodes.length } := by
  induction files using List.reverseRecOn with
  | nil => rfl
  | append_singleton files f ih =>
    rw [scanned_concat, withFile]
    cases Key.ofPath? root f.path with
    | none => exact ih
    | some key =>
      by_cases hk : (scanned root files).graph.contains (.file key) = true
      · simp only [hk, if_true]
        exact ih
      · simp only [hk, if_false, Bool.false_eq_true]
        rw [ih, Graph.addNode, Node.key, if_neg hk]
        simp

end Web

/-! ### What the imports come to -/

/-- Two graphs with the same files. -/
def Graph.SameFiles (g g' : Graph) : Prop :=
  ∀ key, g.contains (.file key) = g'.contains (.file key)

namespace Link

variable {g g' : Graph} {includeExternal : Bool} {importer : String} {link : Link}

theorem ofImport_congr (h : g.SameFiles g') (root : P) (importer : String) (i : Import P) :
    ofImport g root importer i = ofImport g' root importer i := by
  cases i with
  | external specifier => rfl
  | file path =>
    simp only [ofImport]
    cases Key.ofPath? root path with
    | none => rfl
    | some key => simp only [h key]

theorem ofImport_eq_external_iff {root : P} {i : Import P} {t : String} :
    ofImport g root importer i = external t ↔ i = .external t := by
  cases i with
  | external specifier => simp [ofImport]
  | file path =>
    have hne : ofImport g root importer (.file path) ≠ external t := by
      intro h
      simp only [ofImport] at h
      split at h
      · cases h
      · split at h
        · split at h <;> cases h
        · cases h
    simp [hne]

/-- An import comes to a file when its path is that of another file in the graph. -/
theorem ofImport_eq_file_iff {root : P} {i : Import P} {key : String} :
    ofImport g root importer i = file key ↔
      ∃ path, i = .file path ∧ Key.ofPath? root path = some key ∧
        g.contains (.file key) = true ∧ key ≠ importer := by
  constructor
  · intro h
    cases i with
    | external specifier => cases h
    | file path =>
      simp only [ofImport] at h
      split at h
      case h_1 => cases h
      case h_2 found hfound =>
        by_cases hthere : g.contains (.file found) = true
        · by_cases hself : found = importer
          · rw [if_pos hthere, if_pos hself] at h
            cases h
          · rw [if_pos hthere, if_neg hself] at h
            cases h
            exact ⟨path, rfl, hfound, hthere, hself⟩
        · rw [if_neg hthere] at h
          cases h
  · rintro ⟨path, rfl, hkey, hthere, hne⟩
    simp only [ofImport, hkey, hthere, if_true, if_neg hne]

/-- An import by a file of the graph joins files of the graph. -/
theorem fits_ofImport (hg : g.InStep) (hk : .file importer ∈ g.keys) (root : P) (i : Import P) :
    (ofImport g root importer i).Fits g importer := by
  refine ⟨hk, fun key hfile => ?_⟩
  obtain ⟨-, -, -, hthere, -⟩ := ofImport_eq_file_iff.1 hfile
  exact hg.contains_iff.1 hthere

/-- Drawing a link neither adds nor takes away a file. -/
theorem sameFiles_draw (h : g.SameFiles g') :
    (link.draw includeExternal importer g).SameFiles g' := by
  have hready : (link.ready includeExternal g).SameFiles g := by
    rw [ready_eq]
    cases link.drawnExternal? includeExternal with
    | none => exact fun _ => rfl
    | some specifier =>
      intro key
      rw [Option.map_some, Option.elim_some, Graph.addNode]
      split
      · rfl
      · have hne : (Key.file key == (Node.external specifier).key) = false :=
          beq_false_of_ne Key.noConfusion
        simp only [Graph.contains, Graph.indexOf?, List.lookup_cons, hne]
  intro key
  rw [← h key, ← hready key, draw_eq]
  split
  · rw [Graph.contains, Graph.indexOf?_addEdge, Graph.contains]
  · rfl

end Link

namespace Links

/-- Counts all links in their order. -/
def tally (t : Tally) (links : Links) : Tally := links.foldl (fun t l => l.2.count t) t

theorem tally_append (t : Tally) (links more : Links) :
    tally t (links ++ more) = tally (tally t links) more := List.foldl_append ..

theorem draw_append (includeExternal : Bool) (g : Graph) (links more : Links) :
    draw includeExternal g (links ++ more) =
      draw includeExternal (draw includeExternal g links) more := List.foldl_append ..

theorem sameFiles_draw {g g' : Graph} (includeExternal : Bool) (h : g.SameFiles g')
    (links : Links) : (draw includeExternal g links).SameFiles g' := by
  induction links using List.reverseRecOn with
  | nil => exact h
  | append_singleton links l ih =>
    rw [draw_concat]
    exact Link.sameFiles_draw ih

/-- The lines that import something are counted apart from the links. -/
theorem tally_importLines (t : Tally) (n : Nat) (links : Links) :
    tally { t with importLines := n } links = { tally t links with importLines := n } := by
  induction links using List.reverseRecOn with
  | nil => rfl
  | append_singleton links l ih =>
    rw [tally_append, tally_append, ih]
    obtain ⟨importer, link⟩ := l
    cases link <;> rfl

end Links

/-! ### The second pass -/

namespace Web

/-- The links of a file of the root, given the graph of the first pass. -/
def linksOf (finder : Finder P) (registry : Registry) (root : P) (g : Graph) (f : Source P) :
    Links :=
  match Key.ofPath? root f.path with
  | none => []
  | some importer =>
    (f.imports finder registry).map fun i => (importer, Link.ofImport g root importer i)

/-- The links of all files. -/
def links (finder : Finder P) (registry : Registry) (root : P) (files : List (Source P)) : Links :=
  files.flatMap (linksOf finder registry root (scanned root files).graph)

/-- The lines of a file of the root that import something, once for each style. -/
def hitCount (registry : Registry) (root : P) (f : Source P) : Nat :=
  match Key.ofPath? root f.path with
  | none => 0
  | some _ => (f.hits registry).length

variable {finder : Finder P} {registry : Registry} {includeExternal : Bool} {root : P}
  {files : List (Source P)}

/-- The edges that a file asks for, import by import. -/
theorem ends_linksOf {f : Source P} {b : String} (hb : Key.ofPath? root f.path = some b)
    (g : Graph) :
    (linksOf finder registry root g f).ends includeExternal =
      (f.imports finder registry).filterMap fun i =>
        (Link.ofImport g root b i).ends? includeExternal b := by
  unfold linksOf Links.ends
  rw [hb]
  exact List.filterMap_map

theorem foldl_withImport {w : Web} {g : Graph} (h : w.graph.SameFiles g) (importer : String)
    (imports : List (Import P)) :
    imports.foldl (withImport root includeExternal importer) w =
      let links := imports.map fun i => (importer, Link.ofImport g root importer i)
      ⟨Links.draw includeExternal w.graph links, Links.tally w.tally links⟩ := by
  induction imports generalizing w with
  | nil => rfl
  | cons i rest ih =>
    have hstep : w.withImport root includeExternal importer i =
        let link := Link.ofImport g root importer i
        ⟨link.draw includeExternal importer w.graph, link.count w.tally⟩ := by
      rw [withImport, Link.ofImport_congr h]
    rw [List.foldl_cons, hstep, ih (Link.sameFiles_draw h)]
    rfl

theorem withImportsOf_eq {w : Web} {g : Graph} (h : w.graph.SameFiles g) (f : Source P) :
    withImportsOf finder registry includeExternal root w f =
      let links := linksOf finder registry root g f
      ⟨Links.draw includeExternal w.graph links, { Links.tally w.tally links with
        importLines := w.tally.importLines + hitCount registry root f }⟩ := by
  rw [withImportsOf, linksOf, hitCount]
  cases Key.ofPath? root f.path with
  | none => rfl
  | some importer =>
    have hstart : ({ w with tally.importLines :=
        w.tally.importLines + (f.hits registry).length } : Web).graph.SameFiles g := h
    exact (foldl_withImport hstart importer (f.imports finder registry)).trans
      (congrArg (Web.mk _) (Links.tally_importLines ..))

theorem foldl_withImportsOf {w : Web} {g : Graph} (h : w.graph.SameFiles g)
    (files : List (Source P)) :
    files.foldl (withImportsOf finder registry includeExternal root) w =
      let links := files.flatMap (linksOf finder registry root g)
      ⟨Links.draw includeExternal w.graph links, { Links.tally w.tally links with
        importLines := w.tally.importLines + (files.map (hitCount registry root)).sum }⟩ := by
  induction files generalizing w with
  | nil => rfl
  | cons f rest ih =>
    have hdraw := Links.sameFiles_draw includeExternal h
      (linksOf finder registry root g f)
    rw [List.foldl_cons, withImportsOf_eq h, ih hdraw]
    simp only [List.flatMap_cons, Links.draw_append, Links.tally_append, List.map_cons,
      List.sum_cons, Links.tally_importLines, Nat.add_assoc]

/-- A run draws and counts the links of its files on top of the first pass. -/
theorem ofFiles_eq (finder : Finder P) (registry : Registry) (includeExternal : Bool) (root : P)
    (files : List (Source P)) :
    ofFiles finder registry includeExternal root files =
      let links := links finder registry root files
      ⟨Links.draw includeExternal (scanned root files).graph links,
        { Links.tally (scanned root files).tally links with
          importLines := (files.map (hitCount registry root)).sum }⟩ := by
  have h : (scanned root files).graph.SameFiles (scanned root files).graph := fun _ => rfl
  have hlines : (scanned root files).tally.importLines = 0 := by rw [tally_scanned]; rfl
  rw [ofFiles, ← scanned, foldl_withImportsOf h, hlines, Nat.zero_add]
  rfl

theorem sameFiles_ofFiles (finder : Finder P) (registry : Registry) (includeExternal : Bool)
    (root : P) (files : List (Source P)) :
    (ofFiles finder registry includeExternal root files).graph.SameFiles
      (scanned root files).graph := by
  rw [ofFiles_eq]
  exact Links.sameFiles_draw includeExternal (fun _ => rfl) _

theorem mem_linksOf {g : Graph} {f : Source P} {l : String × Link} :
    l ∈ linksOf finder registry root g f ↔
      ∃ importer, Key.ofPath? root f.path = some importer ∧
        ∃ i ∈ f.imports finder registry, l = (importer, Link.ofImport g root importer i) := by
  unfold linksOf
  cases hkey : Key.ofPath? root f.path with
  | none => simp
  | some importer => simp [eq_comm]

theorem mem_links {l : String × Link} : l ∈ links finder registry root files ↔
    ∃ f ∈ files, ∃ importer, Key.ofPath? root f.path = some importer ∧
      ∃ i ∈ f.imports finder registry,
        l = (importer, Link.ofImport (scanned root files).graph root importer i) := by
  unfold links
  rw [List.mem_flatMap]
  exact exists_congr fun f => and_congr_right fun _ => mem_linksOf

/-- Every link of a run joins files that are there. -/
theorem fits_links (finder : Finder P) (registry : Registry) (root : P) (files : List (Source P)) :
    Links.Fits (scanned root files).graph (links finder registry root files) := by
  intro l hl
  obtain ⟨f, hf, importer, hkey, i, -, rfl⟩ := mem_links.1 hl
  exact Link.fits_ofImport (inStep_scanned root files)
    (mem_keys_scanned.2 ⟨f, hf, importer, hkey, rfl⟩) root i

theorem nodes_ofFiles (finder : Finder P) (registry : Registry) (includeExternal : Bool) (root : P)
    (files : List (Source P)) :
    (ofFiles finder registry includeExternal root files).graph.nodes =
      (scanned root files).graph.nodes ++
        ((links finder registry root files).externals includeExternal).eraseDups.map
          Node.external := by
  rw [ofFiles_eq]
  exact Links.nodes_draw (inStep_scanned root files) (fun s => external_not_mem_scanned s) _

/-- The files of a web are those of the first pass. -/
theorem fileNodes_ofFiles (finder : Finder P) (registry : Registry) (includeExternal : Bool)
    (root : P) (files : List (Source P)) :
    (ofFiles finder registry includeExternal root files).graph.nodes.filter
      (fun n => ! n.isExternal) = (scanned root files).graph.nodes := by
  have hfiles : (scanned root files).graph.nodes.filter (fun n => ! n.isExternal) =
      (scanned root files).graph.nodes :=
    List.filter_eq_self.2 fun n hn => by rw [isExternal_of_mem_scanned hn, Bool.not_false]
  rw [nodes_ofFiles, List.filter_append, hfiles]
  simp [List.filter_map, Function.comp_def, Node.isExternal]

/-- The calls that draw the web of the files. -/
def calls (finder : Finder P) (registry : Registry) (includeExternal : Bool) (root : P)
    (files : List (Source P)) : List Call :=
  (files.filterMap (fileNode? root)).map .node ++
    (links finder registry root files).flatMap fun l => l.2.calls includeExternal l.1

/-- So what holds of the graph after any calls holds of the graph of a run. -/
theorem graph_ofFiles (finder : Finder P) (registry : Registry) (includeExternal : Bool) (root : P)
    (files : List (Source P)) :
    (ofFiles finder registry includeExternal root files).graph =
      Graph.build (calls finder registry includeExternal root files) := by
  rw [ofFiles_eq, calls, Graph.build, List.foldl_append, ← Graph.build, ← graph_scanned]
  exact Links.draw_eq_foldl ..

theorem inStep_ofFiles (finder : Finder P) (registry : Registry) (includeExternal : Bool)
    (root : P) (files : List (Source P)) :
    (ofFiles finder registry includeExternal root files).graph.InStep := by
  rw [graph_ofFiles]
  exact Graph.inStep_build _

/-- An edge of the web counts the links that ask for it. -/
theorem countOf_ofFiles (finder : Finder P) (registry : Registry) (includeExternal : Bool)
    (root : P) (files : List (Source P)) (a b : Key) :
    (ofFiles finder registry includeExternal root files).graph.countOf a b =
      ((links finder registry root files).ends includeExternal).count (a, b) := by
  rw [ofFiles_eq]
  have hfits := fits_links finder registry root files
  refine (Links.countOf_draw (inStep_scanned root files) hfits a b).trans ?_
  rw [countOf_scanned, Nat.zero_add]

/-- All edges of the web together count the links that ask for one. -/
theorem total_ofFiles (finder : Finder P) (registry : Registry) (includeExternal : Bool)
    (root : P) (files : List (Source P)) :
    (ofFiles finder registry includeExternal root files).graph.total =
      ((links finder registry root files).ends includeExternal).length := by
  rw [ofFiles_eq]
  have hfits := fits_links finder registry root files
  refine (Links.total_draw (inStep_scanned root files) hfits).trans ?_
  rw [total_scanned, Nat.zero_add]

end Web

end ImportWeb
