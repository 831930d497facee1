import ImportWeb.Proofs.Graph.Identifier

/-!
Graphs that differ in their order only. They have the same nodes and the same counts, though a
node or an edge may stand elsewhere in its list. A listing forgets the order of the nodes, and
keeps that of the edges only where two of them have the same identifiers at their ends.
-/

namespace ImportWeb

namespace ListedNode

/-- A listed node is told by its kind and its identifier. -/
theorem eq_of_le_of_le {a b : ListedNode} (hab : a.le b = true) (hba : b.le a = true) :
    a.external = b.external ∧ a.id = b.id := by
  have hanti : a.id ≤ b.id → b.id ≤ a.id → a.id = b.id := String.le_antisymm
  unfold le at hab hba
  cases ha : a.external <;> cases hb : b.external <;> simp_all

theorem key_eq_of_ofNode {m n : Node} (hkind : m.isExternal = n.isExternal)
    (hid : m.key.id = n.key.id) : m.key = n.key := by
  rcases Key.eq_or_of_id_eq hid with heq | ⟨t, hm, hn⟩ | ⟨t, hn, hm⟩
  · exact heq
  · cases m <;> cases n <;> simp_all [Node.key, Node.isExternal]
  · cases m <;> cases n <;> simp_all [Node.key, Node.isExternal]

end ListedNode

namespace ListedEdge

theorem le_trans {a b c : ListedEdge} (hab : a.le b = true) (hbc : b.le c = true) :
    a.le c = true := by
  unfold le at *
  grind

theorem le_total (a b : ListedEdge) : (a.le b || b.le a) = true := by
  unfold le
  grind

end ListedEdge

namespace Graph

/-- The nodes and the counts of two graphs are the same. -/
structure Alike (g' g : Graph) : Prop where
  nodes : g'.nodes.Perm g.nodes
  counts : ∀ a b, g'.countOf a b = g.countOf a b

theorem listing_edges_perm (g : Graph) :
    g.listing.edges.Perm (g.arcs.map ListedEdge.ofArc) := List.mergeSort_perm _ _

theorem listing_edges_pairwise (g : Graph) :
    g.listing.edges.Pairwise fun a b => a.le b = true := by
  refine List.pairwise_mergeSort ?_ ListedEdge.le_total _
  exact fun _ _ _ => ListedEdge.le_trans

namespace Alike

variable {g' g : Graph}

theorem arcs_perm (h : Alike g' g) (hg' : g'.InStep) (hg : g.InStep) : g'.arcs.Perm g.arcs := by
  have hnodup : ∀ {g : Graph}, g.InStep → g.arcs.Nodup := fun hg =>
    List.Nodup.of_map _ (nodup_ends_arcs hg)
  refine (List.perm_ext_iff_of_nodup (hnodup hg') (hnodup hg)).2 fun x => ?_
  rw [mem_arcs hg', mem_arcs hg, h.counts]

theorem listing_edges (h : Alike g' g) (hg' : g'.InStep) (hg : g.InStep) :
    g'.listing.edges.Perm g.listing.edges :=
  (listing_edges_perm g').trans
    (((h.arcs_perm hg' hg).map _).trans (listing_edges_perm g).symm)

/-- No two nodes of a graph are listed in the same place. -/
theorem listing_nodes (h : Alike g' g) (hg : g.InStep) :
    g'.listing.nodes = g.listing.nodes := by
  have hperm : g'.listing.nodes.Perm g.listing.nodes :=
    (listing_nodes_perm g').trans ((h.nodes.map _).trans (listing_nodes_perm g).symm)
  refine hperm.eq_of_pairwise ?_ (listing_nodes_pairwise g') (listing_nodes_pairwise g)
  intro a b ha hb hab hba
  obtain ⟨m, hm, rfl⟩ := mem_listing_nodes.1 (hperm.mem_iff.1 ha)
  obtain ⟨n, hn, rfl⟩ := mem_listing_nodes.1 hb
  obtain ⟨hkind, hid⟩ := ListedNode.eq_of_le_of_le hab hba
  rw [hg.eq_of_key_eq hm hn (ListedNode.key_eq_of_ofNode hkind hid)]

end Alike

end Graph

end ImportWeb
