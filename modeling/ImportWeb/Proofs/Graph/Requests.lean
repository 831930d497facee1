import ImportWeb.Proofs.Graph.History

/-!
The edges of a graph in their order. A graph in step lists an edge where its ends were first
asked for, so its edges are told by a list of requests alone: each pair of ends once, with the
number of times it stands in the list. Leaving requests out leaves edges out.
-/

namespace ImportWeb.Graph

variable {g : Graph}

/-! ### The ends of the edges -/

theorem mem_ends_iff (h : InStep g) {i j : Nat} :
    (i, j) ∈ g.edges.map Edge.ends ↔ 0 < countBetween g.edges i j := by
  rw [List.mem_map]
  constructor
  · rintro ⟨e, he, ⟨⟩⟩
    rw [countBetween_of_mem h.single he]
    exact h.positive e he
  · intro hpos
    obtain ⟨e, he, hi, hj, -⟩ := exists_mem_of_countBetween hpos
    exact ⟨e, he, Prod.ext hi hj⟩

theorem mem_ends_arcs (h : InStep g) {a b : Key} :
    (a, b) ∈ g.arcs.map Arc.ends ↔ 0 < g.countOf a b := by
  rw [List.mem_map]
  constructor
  · rintro ⟨x, hx, ⟨⟩⟩
    obtain ⟨hpos, hcount⟩ := (mem_arcs h).1 hx
    rwa [hcount]
  · intro hpos
    exact ⟨⟨a, b, g.countOf a b⟩, (mem_arcs h).2 ⟨hpos, rfl⟩, rfl⟩

theorem arcs_eq_map (h : InStep g) :
    g.arcs = (g.arcs.map Arc.ends).map fun p => ⟨p.1, p.2, g.countOf p.1 p.2⟩ := by
  have hsame : ∀ x ∈ g.arcs, (⟨x.source, x.target, g.countOf x.source x.target⟩ : Arc) = x := by
    intro x hx
    rw [((mem_arcs h).1 hx).2]
  rw [List.map_map]
  exact ((List.map_congr_left hsame).trans (List.map_id _)).symm

theorem arcs_addNode (h : InStep g) (n : Node) : (g.addNode n).arcs = g.arcs := by
  rw [arcs, arcs, edges_addNode]
  refine List.filterMap_congr fun e he => ?_
  obtain ⟨hs, ht⟩ := h.ends_lt e.ends (List.mem_map_of_mem he)
  simp only [Edge.ends] at hs ht
  rw [arc?, arc?, addNode]
  split
  · rfl
  · rw [List.getElem?_append_left hs, List.getElem?_append_left ht]

/-- An edge that is asked for again stays where it is, and a new one comes last. -/
theorem ends_arcs_addEdge (h : InStep g) {a b : Key} (ha : a ∈ g.keys) (hb : b ∈ g.keys) :
    (g.addEdge a b).1.arcs.map Arc.ends =
      if (a, b) ∈ g.arcs.map Arc.ends then g.arcs.map Arc.ends
      else g.arcs.map Arc.ends ++ [(a, b)] := by
  obtain ⟨i, j, hi, hj, heq⟩ := addEdge_of_mem h ha hb
  have hnew : g.endKeys? (i, j) = some (a, b) := by
    rw [endKeys?, (h.index a i).1 hi, (h.index b j).1 hj]
    rfl
  have hsame : (g.addEdge a b).1.endKeys? = g.endKeys? := by
    funext p
    rw [endKeys?, endKeys?, keys_addEdge]
  have hmem : (i, j) ∈ g.edges.map Edge.ends ↔ (a, b) ∈ g.arcs.map Arc.ends := by
    rw [mem_ends_iff h, mem_ends_arcs h, countOf_of_index hi hj]
  rw [ends_arcs, hsame, heq, ends_bump]
  simp only [hmem]
  split
  · rw [ends_arcs]
  · rw [List.filterMap_append, ends_arcs]
    simp [hnew]

/-! ### The edges of a list of requests -/

/-- One edge for each pair of ends, where it is first asked for, with the number of requests. -/
def arcsOf (requests : List (Key × Key)) : List Arc :=
  requests.eraseDups.map fun p => ⟨p.1, p.2, requests.count p⟩

theorem arcs_eq_arcsOf (h : InStep g) {requests : List (Key × Key)}
    (hends : g.arcs.map Arc.ends = requests.eraseDups)
    (hcounts : ∀ a b, g.countOf a b = requests.count (a, b)) : g.arcs = arcsOf requests := by
  rw [arcs_eq_map h, hends, arcsOf]
  exact List.map_congr_left fun p _ => by rw [hcounts]

theorem exists_mem_arcsOf {requests : List (Key × Key)} {p : Key × Key} :
    (∃ x ∈ arcsOf requests, x.ends = p) ↔ p ∈ requests := by
  constructor
  · rintro ⟨x, hx, rfl⟩
    obtain ⟨q, hq, rfl⟩ := List.mem_map.1 hx
    exact List.mem_eraseDups.1 hq
  · intro hp
    exact ⟨_, List.mem_map_of_mem (List.mem_eraseDups.2 hp), rfl⟩

theorem arcsOf_filter (keep : Key × Key → Bool) (requests : List (Key × Key)) :
    arcsOf (requests.filter keep) = (arcsOf requests).filter fun x => keep x.ends := by
  rw [arcsOf, arcsOf, eraseDups_filter, List.filter_map]
  refine List.map_congr_left fun p hp => ?_
  rw [List.count_filter (List.mem_filter.1 hp).2]

end ImportWeb.Graph
