import ImportWeb.Proofs.Style.Token
import ImportWeb.Proofs.Style.Yield
import ImportWeb.Proofs.Web.Reference

/-!
Where edges come from. An edge from an external module is named as some line of the importing file
names it, and an edge from a file leads from the candidate of a token on such a line.
-/

namespace ImportWeb

open Text

namespace Source

variable {disk : Disk} {registry : Registry} {f : Source}

/-- A token on a line of the file that a style for the file matches. -/
def Mentions (registry : Registry) (f : Source) (style : Style) (token : String) : Prop :=
  style ∈ registry.applicable f.extension ∧
    ∃ line ∈ f.lines, style.isMatch line = true ∧ StandsOn line.toList token.toList

/-- An import comes from a token that the file mentions. -/
theorem exists_mentions_of_mem_imports {i : Import} (h : i ∈ f.imports disk registry) :
    ∃ style token, f.Mentions registry style token ∧
      i = style.layout.resolve disk f.path token := by
  obtain ⟨line, hline, style, hstyle, hmatch, hi⟩ := mem_imports.1 h
  obtain ⟨token, htoken, rfl⟩ := List.mem_map.1 hi
  exact ⟨style, token, ⟨hstyle, line, hline, hmatch, Style.standsOn_of_mem_tokens htoken⟩, rfl⟩

/-- A module from elsewhere is named as the file mentions it. -/
theorem mentions_of_external {t : String} (h : .external t ∈ f.imports disk registry) :
    ∃ style, f.Mentions registry style t := by
  obtain ⟨style, token, hmentions, hi⟩ := exists_mentions_of_mem_imports h
  have htrim : trim token.toList = token.toList := by
    obtain ⟨-, line, -, -, hstands⟩ := hmentions
    exact hstands.trim_eq
  have hname := (style.layout.classifies_resolve disk f.path token).2 t hi.symm
  rw [trimmed, htrim, String.ofList_toList] at hname
  exact ⟨style, hname ▸ hmentions⟩

/-- A file is imported by its candidate path. -/
theorem mentions_of_file {p : Path} (h : .file p ∈ f.imports disk registry) :
    ∃ style token, f.Mentions registry style token ∧
      style.layout.candidate? f.path token = some p ∧ disk.isFile p = true := by
  obtain ⟨style, token, hmentions, hi⟩ := exists_mentions_of_mem_imports h
  exact ⟨style, token, hmentions,
    ((style.layout.classifies_resolve disk f.path token).1 p).1 hi.symm⟩

end Source

/-- A node is found under its key. -/
theorem Graph.InStep.node?_key {g : Graph} (h : g.InStep) {n : Node} (hn : n ∈ g.nodes) :
    g.node? n.key = some n := by
  obtain ⟨i, hi⟩ := List.mem_iff_getElem?.1 hn
  have hkey : g.keys[i]? = some n.key := by rw [Graph.keys, List.getElem?_map, hi, Option.map_some]
  rw [Graph.node?, (h.index _ _).2 hkey, Option.bind_some, hi]

namespace Web

variable {disk : Disk} {registry : Registry} {includeExternal : Bool} {root : Path}
  {files : List Source}

/-- The node of a file is that of a file of its key. -/
theorem exists_of_mem_scanned {n : Node} (h : n ∈ (scanned root files).graph.nodes) :
    ∃ f ∈ files, fileNode? root f = some n := by
  induction files using List.reverseRecOn with
  | nil => cases h
  | append_singleton files f ih =>
    have hlift : (∃ k ∈ files, fileNode? root k = some n) →
        ∃ k ∈ files ++ [f], fileNode? root k = some n :=
      fun ⟨k, hk, hnode⟩ => ⟨k, List.mem_append_left _ hk, hnode⟩
    rw [scanned_concat, graph_withFile] at h
    cases hf : fileNode? root f with
    | none =>
      rw [hf] at h
      exact hlift (ih h)
    | some m =>
      rw [hf, Option.elim_some, Graph.nodes_addNode (inStep_scanned root files)] at h
      split at h
      case isTrue => exact hlift (ih h)
      case isFalse =>
        rcases List.mem_append.1 h with h | h
        · exact hlift (ih h)
        · obtain rfl := List.mem_singleton.1 h
          exact ⟨f, List.mem_append_right _ List.mem_cons_self, hf⟩

/-- What the web has under a key is the node of some file of that key. -/
theorem exists_node_of_contains {a : String}
    (h : (scanned root files).graph.contains (.file a) = true) :
    ∃ k ∈ files, Key.ofPath? root k.path = some a ∧
      (ofFiles disk registry includeExternal root files).graph.node? (.file a) =
        some (.file ⟨a, FilePath.raw k.path, k.lineCount⟩) := by
  obtain ⟨n, hn, hkey⟩ := List.mem_map.1 ((inStep_scanned root files).contains_iff.1 h)
  obtain ⟨k, hk, hnode⟩ := exists_of_mem_scanned hn
  rw [fileNode?, Option.map_eq_some_iff] at hnode
  obtain ⟨key, hpath, rfl⟩ := hnode
  obtain rfl : key = a := Key.file.inj hkey
  refine ⟨k, hk, hpath, ?_⟩
  have hmem := List.mem_append_left (((links disk registry root files).externals
    includeExternal).eraseDups.map Node.external) hn
  rw [← nodes_ofFiles] at hmem
  exact (inStep_ofFiles disk registry includeExternal root files).node?_key hmem

/-- Every edge of a web told from what is written in the file that it leads to. -/
structure IsTraced (disk : Disk) (registry : Registry) (root : Path) (files : List Source)
    (g : Graph) : Prop where
  /-- An external module is what a line of the importing file has, letter by letter. -/
  externals : ∀ x ∈ g.arcs, ∀ t, x.source = .external t → ∃ f ∈ files, ∃ importer,
    Key.ofPath? root f.path = some importer ∧ x.target = .file importer ∧
      ∃ style, f.Mentions registry style t
  /-- A file is on disk under the candidate path of what such a line has, which has the key of the
  node; and the file of the node has that path. -/
  files : ∀ x ∈ g.arcs, ∀ a, x.source = .file a → ∃ f ∈ files, ∃ importer,
    Key.ofPath? root f.path = some importer ∧ x.target = .file importer ∧
      ∃ style token p, f.Mentions registry style token ∧
        style.layout.candidate? f.path token = some p ∧ disk.isFile p = true ∧
        Key.ofPath? root p = some a ∧
        ∃ k ∈ files, g.node? (.file a) = some (.file ⟨a, FilePath.raw k.path, k.lineCount⟩) ∧
          k.path.components = p.components ∧ (k.path.clean = k.path → k.path = p)

/-- Nothing in a web is made up: an external module is named as the importing file names it, and an
imported file is the one on disk that a token of the importing file leads to. -/
theorem isTraced_ofFiles (disk : Disk) (registry : Registry) (includeExternal : Bool) (root : Path)
    (files : List Source) :
    IsTraced disk registry root files
      (ofFiles disk registry includeExternal root files).graph := by
  constructor
  case externals =>
    intro x hx t hsource
    obtain ⟨f, hf, importer, hkey, htarget, i, hi, hends⟩ := exists_import_of_mem_arcs hx
    rw [hsource, Link.ends?_eq_external_iff, Link.ofImport_eq_external_iff] at hends
    exact ⟨f, hf, importer, hkey, htarget, Source.mentions_of_external (hends.2 ▸ hi)⟩
  case files =>
    intro x hx a hsource
    obtain ⟨f, hf, importer, hkey, htarget, i, hi, hends⟩ := exists_import_of_mem_arcs hx
    rw [hsource, Link.ends?_eq_file_iff, Link.ofImport_eq_file_iff] at hends
    obtain ⟨p, rfl, hp, hthere, -⟩ := hends
    obtain ⟨style, token, hmentions, hcandidate, hfile⟩ := Source.mentions_of_file hi
    obtain ⟨k, hk, hkkey, hnode⟩ := exists_node_of_contains hthere
    have hsame := Key.components_eq_of_ofPath? hkkey hp
    refine ⟨f, hf, importer, hkey, htarget, style, token, p, hmentions, hcandidate, hfile, hp,
      k, hk, hnode, hsame, fun hclean => ?_⟩
    obtain ⟨q, rfl⟩ := Source.exists_clean_of_mem_imports hi
    rw [← hclean] at hsame ⊢
    exact Path.clean_inj hsame

end Web

end ImportWeb
