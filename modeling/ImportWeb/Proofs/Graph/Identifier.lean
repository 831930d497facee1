import ImportWeb.Graph.Listing
import ImportWeb.Proofs.Graph.History

/-!
The identifiers of a listing. A file is listed under its key and an external module under its
name with a mark in front, so a file whose key begins with the mark may share its identifier
with an external module. Nothing else collides: the identifiers of a graph are distinct, and
every end of an edge is drawn at its own node, exactly when no file is shadowed in this way.
-/

namespace ImportWeb

/-- Keys of one identifier are the same or a file and an external module. -/
theorem Key.eq_or_of_id_eq {k l : Key} (h : k.id = l.id) :
    k = l ∨ (∃ t, k = .file ("ext:" ++ t) ∧ l = .external t) ∨
      ∃ t, l = .file ("ext:" ++ t) ∧ k = .external t := by
  cases k with
  | file p =>
    cases l with
    | file q => exact .inl (congrArg Key.file h)
    | external t => exact .inr (.inl ⟨t, congrArg Key.file h, rfl⟩)
  | external s =>
    cases l with
    | file q => exact .inr (.inr ⟨s, congrArg Key.file h.symm, rfl⟩)
    | external t => exact .inl (congrArg Key.external ((String.append_right_inj _).1 h))

/-! ### The node that an identifier stands for -/

namespace Listing

/-- The node at which an end of an edge with this identifier is drawn. -/
def drawn? (l : Listing) (id : String) : Option ListedNode :=
  (l.indexOf? id).bind fun i => l.nodes[i]?

theorem indexOf?_go_concat (id : String) (nodes : List ListedNode) (n : ListedNode) (i : Nat)
    (found : Option Nat) :
    indexOf?.go id i found (nodes ++ [n]) =
      if n.id = id then some (i + nodes.length) else indexOf?.go id i found nodes := by
  induction nodes generalizing i found with
  | nil => simp [indexOf?.go]
  | cons m rest ih =>
    rw [List.cons_append, indexOf?.go, indexOf?.go, ih, List.length_cons]
    congr 2
    omega

theorem indexOf?_go_lt {id : String} {nodes : List ListedNode} {i : Nat}
    (h : indexOf?.go id 0 none nodes = some i) : i < nodes.length := by
  induction nodes using List.reverseRecOn with
  | nil => simp [indexOf?.go] at h
  | append_singleton nodes n ih =>
    rw [indexOf?_go_concat] at h
    rw [List.length_append, List.length_singleton]
    split at h
    · have := Option.some.inj h
      omega
    · have := ih h
      omega

/-- An identifier stands for the last node that is listed under it. -/
theorem drawn?_eq_find? (l : Listing) (id : String) :
    l.drawn? id = l.nodes.reverse.find? (·.id = id) := by
  obtain ⟨nodes, edges⟩ := l
  simp only [drawn?, indexOf?]
  induction nodes using List.reverseRecOn with
  | nil => rfl
  | append_singleton nodes n ih =>
    rw [indexOf?_go_concat, List.reverse_concat, List.find?_cons]
    by_cases hn : n.id = id
    · simp [hn]
    · simp only [hn, if_false, decide_false, ← ih]
      refine Option.bind_congr fun i hi => ?_
      exact List.getElem?_append_left (indexOf?_go_lt hi)

/-- The position of the last node listed under an identifier. -/
def lastIndex? (l : Listing) (id : String) : Option Nat :=
  (l.nodes.zipIdx.filter fun p => p.1.id = id).getLast?.map (·.2)

theorem indexOf?_eq_lastIndex? (l : Listing) (id : String) : l.indexOf? id = l.lastIndex? id := by
  obtain ⟨nodes, edges⟩ := l
  simp only [indexOf?, lastIndex?]
  induction nodes using List.reverseRecOn with
  | nil => rfl
  | append_singleton nodes n ih =>
    rw [indexOf?_go_concat, ih, List.zipIdx_append, List.filter_append]
    by_cases hn : n.id = id
    · simp [hn]
    · simp [hn]

/-- The edges that are drawn are those whose ends are both listed. -/
theorem joined_eq (l : Listing) :
    l.joined = l.edges.filterMap fun e => do
      return (← l.lastIndex? e.source, ← l.lastIndex? e.target, e.count) := by
  simp only [joined, indexOf?_eq_lastIndex?]

end Listing

namespace ListedNode

theorem le_trans {a b c : ListedNode} (hab : a.le b = true) (hbc : b.le c = true) :
    a.le c = true := by
  unfold le at *
  have htrans : a.id ≤ b.id → b.id ≤ c.id → a.id ≤ c.id := String.le_trans
  cases ha : a.external <;> cases hb : b.external <;> cases hc : c.external <;> simp_all

theorem le_total (a b : ListedNode) : (a.le b || b.le a) = true := by
  unfold le
  have htotal := String.le_total a.id b.id
  cases ha : a.external <;> cases hb : b.external <;> simp_all

/-- No external module is listed at or before a file. -/
theorem not_eq_or_le {m n : Node} {s p : String} (hm : m.key = .external s)
    (hn : n.key = .file p) : ¬ (ofNode m = ofNode n ∨ (ofNode m).le (ofNode n) = true) := by
  cases m with
  | file info => simp [Node.key] at hm
  | external t =>
    cases n with
    | file info => simp [ofNode, le, Node.isExternal]
    | external t' => simp [Node.key] at hn

end ListedNode

namespace Graph

variable {g : Graph}

theorem listing_nodes_perm (g : Graph) :
    g.listing.nodes.Perm (g.nodes.map ListedNode.ofNode) := List.mergeSort_perm _ _

theorem listing_nodes_pairwise (g : Graph) :
    g.listing.nodes.Pairwise fun a b => a.le b = true := by
  refine List.pairwise_mergeSort ?_ ListedNode.le_total _
  exact fun _ _ _ => ListedNode.le_trans

theorem mem_listing_nodes {m : ListedNode} :
    m ∈ g.listing.nodes ↔ ∃ n ∈ g.nodes, .ofNode n = m := by
  rw [(listing_nodes_perm g).mem_iff, List.mem_map]

/-- A stored node's identifier is drawn at a node that no other of the same identifier follows. -/
theorem drawn?_last {n : Node} (hn : n ∈ g.nodes) :
    ∃ m ∈ g.nodes, g.listing.drawn? n.key.id = some (.ofNode m) ∧ m.key.id = n.key.id ∧
      ∀ m' ∈ g.nodes, m'.key.id = n.key.id →
        ListedNode.ofNode m' = .ofNode m ∨ (ListedNode.ofNode m').le (.ofNode m) = true := by
  have hsome : (g.listing.nodes.reverse.find? (·.id = n.key.id)).isSome := by
    rw [List.find?_isSome]
    exact ⟨.ofNode n, List.mem_reverse.2 (mem_listing_nodes.2 ⟨n, hn, rfl⟩), decide_eq_true rfl⟩
  obtain ⟨l, hl⟩ := Option.isSome_iff_exists.1 hsome
  obtain ⟨m, hm, rfl⟩ := mem_listing_nodes.1 (List.mem_reverse.1 (List.mem_of_find?_eq_some hl))
  obtain ⟨hid, later, earlier, heq, hlater⟩ := List.find?_eq_some_iff_append.1 hl
  refine ⟨m, hm, (Listing.drawn?_eq_find? _ _).trans hl, of_decide_eq_true hid, ?_⟩
  intro m' hm' hid'
  have hsplit : g.listing.nodes = earlier.reverse ++ ListedNode.ofNode m :: later.reverse := by
    rw [← List.reverse_reverse g.listing.nodes, heq]
    simp
  have hmem := mem_listing_nodes.2 ⟨m', hm', rfl⟩
  rw [hsplit, List.mem_append, List.mem_cons] at hmem
  rcases hmem with hmem | hmem | hmem
  · have hpair := listing_nodes_pairwise g
    rw [hsplit, List.pairwise_append] at hpair
    exact .inr (hpair.2.2 _ hmem _ List.mem_cons_self)
  · exact .inl hmem
  · have hne := hlater _ (List.mem_reverse.1 hmem)
    simp [ListedNode.ofNode, hid'] at hne

/-! ### Shadowed files -/

/-- A file whose key is the identifier of an external module in the graph. -/
def Shadowed (g : Graph) (k : Key) : Prop :=
  ∃ t, k = .file ("ext:" ++ t) ∧ .external t ∈ g.keys

theorem eq_of_id_eq {k l : Key} (hk : k ∈ g.keys) (hl : l ∈ g.keys) (hks : ¬ g.Shadowed k)
    (hls : ¬ g.Shadowed l) (h : k.id = l.id) : k = l := by
  rcases Key.eq_or_of_id_eq h with heq | ⟨t, rfl, rfl⟩ | ⟨t, rfl, rfl⟩
  · exact heq
  · exact absurd ⟨t, rfl, hl⟩ hks
  · exact absurd ⟨t, rfl, hk⟩ hls

theorem nodup_ids_iff (h : InStep g) :
    (g.listing.nodes.map ListedNode.id).Nodup ↔ ∀ k ∈ g.keys, ¬ g.Shadowed k := by
  have hids : (g.listing.nodes.map ListedNode.id).Perm (g.keys.map Key.id) := by
    have hmap := (listing_nodes_perm g).map ListedNode.id
    rw [List.map_map] at hmap
    rw [keys, List.map_map]
    exact hmap
  rw [hids.nodup_iff]
  constructor
  · rintro hnodup _ hk ⟨t, rfl, ht⟩
    have := List.inj_on_of_nodup_map hnodup hk ht rfl
    cases this
  · intro hno
    refine List.Nodup.map_on (fun k hk l hl heq => ?_) h.nodup_keys
    exact eq_of_id_eq hk hl (hno k hk) (hno l hl) heq

/-- A node's identifier is drawn at that node unless it is a shadowed file. -/
theorem drawn?_iff (h : InStep g) {n : Node} (hn : n ∈ g.nodes) :
    g.listing.drawn? n.key.id = some (.ofNode n) ↔ ¬ g.Shadowed n.key := by
  obtain ⟨m, hm, hdrawn, hid, hlast⟩ := drawn?_last hn
  rw [hdrawn]
  constructor
  · rintro heq ⟨t, hfile, ht⟩
    obtain ⟨e, he, hkey⟩ := List.mem_map.1 ht
    have hsame := hlast e he (by rw [hkey, hfile]; rfl)
    rw [Option.some.inj heq] at hsame
    exact ListedNode.not_eq_or_le hkey hfile hsame
  · intro hns
    rcases Key.eq_or_of_id_eq hid with heq | ⟨t, hmt, hnt⟩ | ⟨t, hnt, hmt⟩
    · rw [h.eq_of_key_eq hm hn heq]
    · exact absurd (hlast n hn rfl) (ListedNode.not_eq_or_le hnt hmt)
    · exact absurd ⟨t, hnt, hmt ▸ List.mem_map_of_mem hm⟩ hns

/-- An edge between files that are not shadowed is drawn from its node to its node. -/
theorem mem_joined (h : InStep g) {x : Arc} (hx : x ∈ g.arcs) (hs : ¬ g.Shadowed x.source)
    (ht : ¬ g.Shadowed x.target) :
    ∃ m ∈ g.nodes, ∃ n ∈ g.nodes, m.key = x.source ∧ n.key = x.target ∧
      ∃ i j, (i, j, x.count) ∈ g.listing.joined ∧
        g.listing.nodes[i]? = some (.ofNode m) ∧ g.listing.nodes[j]? = some (.ofNode n) := by
  obtain ⟨hsource, htarget⟩ := ends_mem_keys h hx
  obtain ⟨m, hm, hmkey⟩ := List.mem_map.1 hsource
  obtain ⟨n, hn, hnkey⟩ := List.mem_map.1 htarget
  obtain ⟨i, hi, hmi⟩ := Option.bind_eq_some_iff.1 ((drawn?_iff h hm).2 (hmkey ▸ hs))
  obtain ⟨j, hj, hnj⟩ := Option.bind_eq_some_iff.1 ((drawn?_iff h hn).2 (hnkey ▸ ht))
  refine ⟨m, hm, n, hn, hmkey, hnkey, i, j, ?_, hmi, hnj⟩
  have hedge : ListedEdge.ofArc x ∈ g.listing.edges :=
    (List.mergeSort_perm _ _).mem_iff.2 (List.mem_map_of_mem hx)
  refine List.mem_filterMap.2 ⟨_, hedge, ?_⟩
  rw [hmkey] at hi
  rw [hnkey] at hj
  simp only [ListedEdge.ofArc, hi, hj]
  rfl

/-- Identifiers collide, and edges are drawn at a wrong node, exactly where a file is shadowed. -/
theorem identifiers_distinct_iff (calls : List Call) :
    let g := build calls
    ((g.listing.nodes.map ListedNode.id).Nodup ↔ ∀ k ∈ g.keys, ¬ g.Shadowed k) ∧
      (∀ n ∈ g.nodes, g.listing.drawn? n.key.id = some (.ofNode n) ↔ ¬ g.Shadowed n.key) ∧
      ∀ x ∈ g.arcs, ¬ g.Shadowed x.source → ¬ g.Shadowed x.target →
        ∃ m ∈ g.nodes, ∃ n ∈ g.nodes, m.key = x.source ∧ n.key = x.target ∧
          ∃ i j, (i, j, x.count) ∈ g.listing.joined ∧
            g.listing.nodes[i]? = some (.ofNode m) ∧
            g.listing.nodes[j]? = some (.ofNode n) := by
  have h := inStep_build calls
  exact ⟨nodup_ids_iff h, fun n hn => drawn?_iff h hn, fun x hx hs ht => mem_joined h hx hs ht⟩

/-- A file that imports the module which it shadows. -/
def shadowing : List Call :=
  [.node (.file ⟨"ext:os.py", .ofString "/p/ext:os.py", 1⟩), .node (.external "os.py"),
    .edge (.external "os.py") (.file "ext:os.py")]

/-- Two nodes have one identifier, and the edge between them is drawn as a loop. -/
theorem shadowing_collides :
    ¬ ((build shadowing).listing.nodes.map ListedNode.id).Nodup ∧
      (build shadowing).listing.joined = [(1, 1, 1)] := by
  constructor
  · rw [nodup_ids_iff (inStep_build shadowing)]
    intro h
    exact h (.file "ext:os.py") (by decide) ⟨"os.py", by decide, by decide⟩
  · have hnodes : ((build shadowing).nodes.map ListedNode.ofNode).Pairwise
        fun a b => a.le b = true := by decide
    have hedges : ((build shadowing).arcs.map ListedEdge.ofArc).Pairwise
        fun a b => a.le b = true := by decide
    rw [Listing.joined, listing, List.mergeSort_of_pairwise hnodes,
      List.mergeSort_of_pairwise hedges]
    decide

end Graph

end ImportWeb
