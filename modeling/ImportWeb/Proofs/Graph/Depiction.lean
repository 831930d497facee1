import Mathlib.Data.List.Perm.Basic
import ImportWeb.Proofs.Graph.Alike
import ImportWeb.Proofs.Size
import ImportWeb.Render.Dot
import ImportWeb.Render.Mermaid

/-!
What a listing shows of a graph. Every node and every edge of the graph is listed once with all
that is known of it, the order of a listing is told by identifiers alone, and no listed edge lacks
an end, so every renderer draws it. Hence the nodes of a listing depend on the contents of the graph
only, whatever way it was made.
-/

namespace ImportWeb

/-- A list and what a function finds for each of its members. -/
theorem forall₂_filterMap {α β : Type*} {f : α → Option β} {l : List α}
    (h : ∀ a ∈ l, (f a).isSome) : List.Forall₂ (fun a b => f a = some b) l (l.filterMap f) := by
  induction l with
  | nil => exact .nil
  | cons a rest ih =>
    obtain ⟨ha, hrest⟩ := List.forall_mem_cons.1 h
    obtain ⟨b, hb⟩ := Option.isSome_iff_exists.1 ha
    rw [List.filterMap_cons_some hb]
    exact .cons hb (ih hrest)

/-- A permutation of the second list can be followed by the first. -/
theorem exists_perm_forall₂ {α β : Type*} {r : α → β → Prop} {l : List α} {m m' : List β}
    (h : List.Forall₂ r l m) (hm : m'.Perm m) : ∃ l', l'.Perm l ∧ List.Forall₂ r l' m' := by
  obtain ⟨l', hl', hperm⟩ := List.perm_comp_forall₂ hm (h.flip (R := flip r))
  exact ⟨l', hperm, hl'.flip⟩

namespace Graph

variable {g : Graph}

/-! ### What is shown -/

/-- What is listed of a node. -/
inductive Shows : Node → ListedNode → Prop
  | file (info : ScannedFile) :
    Shows (.file info) ⟨info.key, info.key, fileSize info.lines, .dot, false, some info.lines⟩
  | external (specifier : String) :
    Shows (.external specifier) ⟨"ext:" ++ specifier, specifier, 5, .diamond, true, none⟩

/-- What is listed of an edge: the identifiers of the nodes at its ends and its count. -/
structure Joins (g : Graph) (e : Edge) (x : ListedEdge) : Prop where
  source : ∃ n, g.nodes[e.source]? = some n ∧ x.source = n.key.id
  target : ∃ n, g.nodes[e.target]? = some n ∧ x.target = n.key.id
  count : x.count = e.count
  positive : 1 ≤ x.count

/-- The places at which a listed edge is drawn. -/
structure Draws (l : Listing) (e : ListedEdge) (drawn : Nat × Nat × Nat) : Prop where
  source : ∃ n, l.nodes[drawn.1]? = some n ∧ n.id = e.source
  target : ∃ n, l.nodes[drawn.2.1]? = some n ∧ n.id = e.target
  count : drawn.2.2 = e.count

/-- All that a listing shows of a graph. -/
structure Depicts (g : Graph) (l : Listing) : Prop where
  /-- The nodes are listed one to one, -/
  nodes : ∃ nodes, nodes.Perm g.nodes ∧ List.Forall₂ Shows nodes l.nodes
  /-- a file as large as its lines make it, in the arithmetic of the machine, -/
  sizes : ∀ n ∈ l.nodes, ∀ lines, n.lines = some lines → ∃ k, Size.IsPower lines k ∧
    n.size = (5 + min k (2 ^ 32 - 1)) % 2 ^ 32 ∧ (lines < 2 ^ 51 → n.size = 5 + k)
  /-- files before external modules, and the identifiers of either kind in strict order. -/
  ordered : l.nodes.Pairwise fun a b =>
    a.external = false ∧ b.external = true ∨ a.external = b.external ∧ a.id < b.id
  /-- The edges are listed one to one, -/
  edges : ∃ edges, edges.Perm g.edges ∧ List.Forall₂ g.Joins edges l.edges
  /-- in the order of their sources, then of their targets. -/
  sorted : l.edges.Pairwise fun a b =>
    a.source < b.source ∨ a.source = b.source ∧ a.target ≤ b.target
  /-- Every edge has a line in each kind of text. -/
  drawn : ∃ drawn, List.Forall₂ (Draws l) l.edges drawn ∧
    Render.Dot.render l = Render.Dot.header ++ Render.Dot.nodeLines 0 l.nodes ++
      drawn.flatMap Render.Dot.edgeLine ++ ['\x7d', '\n'] ∧
    Render.Mermaid.render l = "flowchart LR\n".toList ++ Render.Mermaid.nodeLines 0 l.nodes ++
      drawn.flatMap Render.Mermaid.edgeLine

/-! ### Nodes -/

theorem shows_ofNode (n : Node) : Shows n (.ofNode n) := by
  cases n with
  | file info => exact .file info
  | external specifier => exact .external specifier

theorem exists_shows (g : Graph) :
    ∃ nodes, nodes.Perm g.nodes ∧ List.Forall₂ Shows nodes g.listing.nodes := by
  refine exists_perm_forall₂ ?_ (listing_nodes_perm g)
  rw [List.forall₂_map_right_iff, List.forall₂_same]
  exact fun n _ => shows_ofNode n

theorem size_of_mem_listing {n : ListedNode} (hn : n ∈ g.listing.nodes) {lines : Nat}
    (hlines : n.lines = some lines) : ∃ k, Size.IsPower lines k ∧
      n.size = (5 + min k (2 ^ 32 - 1)) % 2 ^ 32 ∧ (lines < 2 ^ 51 → n.size = 5 + k) := by
  obtain ⟨m, -, rfl⟩ := mem_listing_nodes.1 hn
  cases m with
  | file info =>
    obtain rfl := Option.some.inj hlines
    exact exists_isPower_fileSize info.lines
  | external => cases hlines

/-- A node and another one after it differ in their keys, and so in their kinds or identifiers. -/
theorem listing_nodes_ordered (h : InStep g) : g.listing.nodes.Pairwise fun a b =>
    a.external = false ∧ b.external = true ∨ a.external = b.external ∧ a.id < b.id := by
  have hdistinct : g.listing.nodes.Pairwise fun a b => a.external = b.external → a.id ≠ b.id := by
    refine (listing_nodes_perm g).symm.pairwise (R := fun a b : ListedNode =>
      a.external = b.external → a.id ≠ b.id) ?_ fun hne hkind hid => hne hkind.symm hid.symm
    rw [List.pairwise_map]
    have hkeys : g.nodes.Pairwise fun m n => m.key ≠ n.key := List.pairwise_map.1 h.nodup_keys
    exact hkeys.imp fun hne hkind hid => hne (ListedNode.key_eq_of_ofNode hkind hid)
  refine ((listing_nodes_pairwise g).and hdistinct).imp fun {a b} ⟨hle, hne⟩ => ?_
  unfold ListedNode.le at hle
  split at hle
  case isTrue hkind =>
    exact .inr ⟨hkind, Std.lt_of_le_of_ne (of_decide_eq_true hle) (hne hkind)⟩
  case isFalse hkind => exact .inl ⟨by cases ha : a.external <;> simp_all, hle⟩

/-! ### Edges -/

theorem joins_of_arc? (h : InStep g) {e : Edge} (he : e ∈ g.edges) {x : Arc}
    (hx : g.arc? e = some x) : g.Joins e (.ofArc x) := by
  obtain ⟨m, hm, hx⟩ := Option.bind_eq_some_iff.1 hx
  obtain ⟨n, hn, hx⟩ := Option.bind_eq_some_iff.1 hx
  obtain rfl := Option.some.inj hx
  exact ⟨⟨m, hm, rfl⟩, ⟨n, hn, rfl⟩, rfl, h.positive e he⟩

theorem exists_joins (h : InStep g) :
    ∃ edges, edges.Perm g.edges ∧ List.Forall₂ g.Joins edges g.listing.edges := by
  refine exists_perm_forall₂ ?_ (listing_edges_perm g)
  have hsome : ∀ e ∈ g.edges, (g.arc? e).isSome := fun e he => by
    obtain ⟨a, b, -, -, hab⟩ := arc?_of_mem h he
    rw [hab, Option.isSome_some]
  rw [List.forall₂_map_right_iff]
  have harcs := (List.forall₂_and_left _ _).2 ⟨fun _ he => he, forall₂_filterMap hsome⟩
  exact harcs.imp fun _ _ ⟨he, hx⟩ => joins_of_arc? h he hx

theorem listing_edges_sorted (g : Graph) : g.listing.edges.Pairwise fun a b =>
    a.source < b.source ∨ a.source = b.source ∧ a.target ≤ b.target := by
  refine (listing_edges_pairwise g).imp fun {a b} hle => ?_
  unfold ListedEdge.le at hle
  split at hle
  case isTrue hsource => exact .inr ⟨hsource, of_decide_eq_true hle⟩
  case isFalse hsource => exact .inl (Std.lt_of_le_of_ne (of_decide_eq_true hle) hsource)

theorem ends_mem_listing (h : InStep g) {x : ListedEdge} (hx : x ∈ g.listing.edges) :
    (∃ n ∈ g.listing.nodes, n.id = x.source) ∧ ∃ n ∈ g.listing.nodes, n.id = x.target := by
  have hlisted : ∀ k ∈ g.keys, ∃ n ∈ g.listing.nodes, n.id = k.id := by
    intro k hk
    obtain ⟨n, hn, rfl⟩ := List.mem_map.1 hk
    exact ⟨.ofNode n, mem_listing_nodes.2 ⟨n, hn, rfl⟩, rfl⟩
  obtain ⟨a, ha, rfl⟩ := List.mem_map.1 ((listing_edges_perm g).mem_iff.1 hx)
  obtain ⟨hsource, htarget⟩ := ends_mem_keys h ha
  exact ⟨hlisted _ hsource, hlisted _ htarget⟩

end Graph

namespace Listing

/-- An identifier that is listed is drawn at a node of that identifier. -/
theorem exists_indexOf? {l : Listing} {n : ListedNode} (hn : n ∈ l.nodes) :
    ∃ i m, l.indexOf? n.id = some i ∧ l.nodes[i]? = some m ∧ m.id = n.id := by
  have hsome : (l.drawn? n.id).isSome := by
    rw [drawn?_eq_find?, List.find?_isSome]
    exact ⟨n, List.mem_reverse.2 hn, decide_eq_true rfl⟩
  obtain ⟨m, hm⟩ := Option.isSome_iff_exists.1 hsome
  obtain ⟨i, hi, hmi⟩ := Option.bind_eq_some_iff.1 hm
  rw [drawn?_eq_find?] at hm
  exact ⟨i, m, hi, hmi, by simpa using List.find?_some hm⟩

/-- Edges between listed nodes are all drawn. -/
theorem forall₂_joined {l : Listing} (h : ∀ x ∈ l.edges,
    (∃ n ∈ l.nodes, n.id = x.source) ∧ ∃ n ∈ l.nodes, n.id = x.target) :
    List.Forall₂ (Graph.Draws l) l.edges l.joined := by
  have hdrawn : ∀ x ∈ l.edges, ∃ p, (do
      return (← l.indexOf? x.source, ← l.indexOf? x.target, x.count)) = some p ∧
      Graph.Draws l x p := by
    intro x hx
    obtain ⟨⟨m, hm, hsource⟩, n, hn, htarget⟩ := h x hx
    obtain ⟨i, m', hi, hmi, hmid⟩ := exists_indexOf? hm
    obtain ⟨j, n', hj, hnj, hnid⟩ := exists_indexOf? hn
    rw [hsource] at hi hmid
    rw [htarget] at hj hnid
    exact ⟨(i, j, x.count), by rw [hi, hj]; rfl, ⟨m', hmi, hmid⟩, ⟨n', hnj, hnid⟩, rfl⟩
  have hsome := fun x hx => Option.isSome_iff_exists.2 ((hdrawn x hx).imp fun _ => And.left)
  have hjoined := (List.forall₂_and_left _ _).2 ⟨fun _ hx => hx, forall₂_filterMap hsome⟩
  refine hjoined.imp fun x p ⟨hx, hp⟩ => ?_
  obtain ⟨q, hq, hdraws⟩ := hdrawn x hx
  exact Option.some.inj (hq.symm.trans hp) ▸ hdraws

end Listing

namespace Graph

/-- Where the edges are the same, the counts are. -/
theorem countOf_congr {g' : Graph} (h' : InStep g') (h : InStep g)
    (harcs : ∀ x, x ∈ g'.arcs ↔ x ∈ g.arcs) (a b : Key) : g'.countOf a b = g.countOf a b := by
  have hsame : ∀ n, 0 < n → (g'.countOf a b = n ↔ g.countOf a b = n) := fun n hn => by
    have harc := harcs ⟨a, b, n⟩
    rw [mem_arcs h', mem_arcs h] at harc
    simpa [hn] using harc
  rcases Nat.eq_zero_or_pos (g.countOf a b) with hzero | hpos
  · rcases Nat.eq_zero_or_pos (g'.countOf a b) with hzero' | hpos
    · rw [hzero, hzero']
    · exact ((hsame _ hpos).1 rfl).symm
  · exact (hsame _ hpos).2 rfl

/-- Whatever calls a graph is made by, its listing shows all of it, and graphs with the same nodes
and edges have the same listed nodes and, up to their order, the same listed edges. -/
theorem depicts_listing (calls : List Call) :
    Depicts (build calls) (build calls).listing ∧
      ∀ calls', (∀ n, n ∈ (build calls').nodes ↔ n ∈ (build calls).nodes) →
        (∀ x, x ∈ (build calls').arcs ↔ x ∈ (build calls).arcs) →
        (build calls').listing.nodes = (build calls).listing.nodes ∧
          (build calls').listing.edges.Perm (build calls).listing.edges := by
  have h := inStep_build calls
  constructor
  · exact
      { nodes := exists_shows _
        sizes := fun n hn lines hlines => size_of_mem_listing hn hlines
        ordered := listing_nodes_ordered h
        edges := exists_joins h
        sorted := listing_edges_sorted _
        drawn := ⟨_, Listing.forall₂_joined fun x => ends_mem_listing h, rfl, rfl⟩ }
  · intro calls' hnodes harcs
    have h' := inStep_build calls'
    have hperm : (build calls').nodes.Perm (build calls).nodes :=
      (List.perm_ext_iff_of_nodup (.of_map _ h'.nodup_keys) (.of_map _ h.nodup_keys)).2 hnodes
    have halike : Alike (build calls') (build calls) := ⟨hperm, countOf_congr h' h harcs⟩
    exact ⟨halike.listing_nodes h, halike.listing_edges h' h⟩

/-- A file and a module that it imports twice, the module first and last. -/
theorem depicts_listing_turned :
    let a := Node.file ⟨"a.py", .ofString "/p/a.py", 2⟩
    let b := Node.external "b"
    let first := build [.node b, .node a, .edge b.key a.key, .edge b.key a.key]
    let last := build [.edge b.key a.key, .node a, .node b, .edge b.key a.key, .edge b.key a.key]
    (∀ n, n ∈ last.nodes ↔ n ∈ first.nodes) ∧ (∀ x, x ∈ last.arcs ↔ x ∈ first.arcs) ∧
      last.nodes ≠ first.nodes ∧ last.listing.nodes = first.listing.nodes := by
  intro a b first last
  have hnodes : last.nodes.Perm first.nodes := by decide
  have harcs : last.arcs.Perm first.arcs := by decide
  exact ⟨fun _ => hnodes.mem_iff, fun _ => harcs.mem_iff, by decide,
    ((depicts_listing _).2 _ (fun _ => hnodes.mem_iff) fun _ => harcs.mem_iff).1⟩

end Graph

end ImportWeb
