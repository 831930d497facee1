import ImportWeb.Proofs.Graph.Requests
import ImportWeb.Proofs.Web.Passes

/-!
The edges of a web in their order. They come from the requests of its links alone, whatever
nodes were added in between: an edge stands where a link first asks for it.
-/

namespace ImportWeb

namespace Link

variable {g : Graph} {includeExternal : Bool} {importer : String} {link : Link}

theorem arcs_ready (h : g.InStep) : (link.ready includeExternal g).arcs = g.arcs := by
  rw [ready_eq]
  cases (link.drawnExternal? includeExternal).map Node.external with
  | none => rfl
  | some n => exact Graph.arcs_addNode h n

/-- A link that fits puts its request behind those that made the graph. -/
theorem ends_arcs_draw (h : g.InStep) (hf : link.Fits g importer) {requests : List (Key × Key)}
    (hg : g.arcs.map Arc.ends = requests.eraseDups) :
    (link.draw includeExternal importer g).arcs.map Arc.ends =
      (requests ++ (link.ends? includeExternal importer).toList).eraseDups := by
  rw [draw_eq]
  cases hends : link.ends? includeExternal importer with
  | none => rw [Option.toList_none, List.append_nil, arcs_ready h, hg]
  | some p =>
    obtain ⟨ha, hb⟩ := ends_mem_ready h hf hends
    rw [Graph.ends_arcs_addEdge (inStep_ready h) ha hb, arcs_ready h, hg, Option.toList_some,
      eraseDups_concat]
    simp only [List.mem_eraseDups]

end Link

namespace Links

theorem ends_arcs_draw {g : Graph} {includeExternal : Bool} (h : g.InStep) {links : Links}
    (hf : Fits g links) {requests : List (Key × Key)}
    (hg : g.arcs.map Arc.ends = requests.eraseDups) :
    (draw includeExternal g links).arcs.map Arc.ends =
      (requests ++ ends includeExternal links).eraseDups := by
  induction links using List.reverseRecOn with
  | nil => exact hg.trans (congrArg List.eraseDups (List.append_nil _).symm)
  | append_singleton links l ih =>
    obtain ⟨hlinks, hl⟩ := hf.split
    have hfit := hl.mono (mem_keys_draw includeExternal h links)
    rw [draw_concat, Link.ends_arcs_draw (inStep_draw h links) hfit (ih hlinks), ends_concat,
      List.append_assoc]

/-- The external modules that are drawn are those that ask for an edge. -/
theorem mem_externals_iff {includeExternal : Bool} {links : Links} {s : String} :
    s ∈ externals includeExternal links ↔
      ∃ importer, (.external s, .file importer) ∈ ends includeExternal links := by
  constructor
  · exact exists_mem_ends
  · rintro ⟨importer, hends⟩
    obtain ⟨l, hl, hl'⟩ := List.mem_filterMap.1 hends
    have himporter : Key.file importer = .file l.1 := Link.target_of_ends? hl'
    rw [himporter] at hl'
    exact List.mem_filterMap.2 ⟨l, hl,
      Link.drawnExternal?_eq_some_iff.2 (Link.ends?_eq_external_iff.1 hl')⟩

end Links

namespace Web

variable (disk : Disk) (registry : Registry) (includeExternal : Bool) (root : Path)
  (files : List Source)

/-- The edges of a web are those that its links ask for. -/
theorem arcs_ofFiles :
    (ofFiles disk registry includeExternal root files).graph.arcs =
      Graph.arcsOf ((links disk registry root files).ends includeExternal) := by
  refine Graph.arcs_eq_arcsOf (inStep_ofFiles ..) ?_ fun _ _ => countOf_ofFiles ..
  have hstart : (scanned root files).graph.arcs.map Arc.ends = [].eraseDups := by
    rw [Graph.arcs, edges_scanned]
    rfl
  have hfits := fits_links disk registry root files
  rw [ofFiles_eq]
  exact Links.ends_arcs_draw (inStep_scanned root files) hfits hstart

theorem external_mem_nodes_iff {t : String} :
    .external t ∈ (ofFiles disk registry includeExternal root files).graph.nodes ↔
      t ∈ (links disk registry root files).externals includeExternal := by
  have hscanned : .external t ∉ (scanned root files).graph.nodes := fun hmem =>
    external_not_mem_scanned t (List.mem_map_of_mem hmem)
  rw [nodes_ofFiles, List.mem_append, or_iff_right hscanned]
  simp [List.mem_eraseDups]

end Web

end ImportWeb
