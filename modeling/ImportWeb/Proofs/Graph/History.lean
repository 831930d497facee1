import Mathlib.Data.List.Induction
import ImportWeb.Proofs.Graph.Index

/-!
A graph and the calls that made it. Any sequence of calls, accepted or not, leaves the empty
graph with a state that can be told from the sequence alone: its nodes are the first ones
offered under each key, in the order of their arrival, and the count of an edge is the number
of times it was asked for when both its ends were there.
-/

namespace ImportWeb

/-! ### Lists without repetitions -/

theorem eraseDups_concat {α : Type*} [BEq α] [LawfulBEq α] (l : List α) (x : α) :
    (l ++ [x]).eraseDups = if x ∈ l then l.eraseDups else l.eraseDups ++ [x] := by
  rw [List.eraseDups_append]
  by_cases hx : x ∈ l
  · rw [if_pos hx, show [x].removeAll l = [] by simp [List.removeAll, hx]]
    exact List.append_nil _
  · rw [if_neg hx, show [x].removeAll l = [x] by simp [List.removeAll, hx]]
    rfl

theorem eraseDups_map {α β : Type*} [DecidableEq α] [DecidableEq β] {f : α → β}
    (hf : Function.Injective f) (l : List α) : (l.map f).eraseDups = l.eraseDups.map f := by
  induction l using List.reverseRecOn with
  | nil => rfl
  | append_singleton l x ih =>
    rw [List.map_append, List.map_singleton, eraseDups_concat, eraseDups_concat, ih]
    by_cases hx : x ∈ l
    · rw [if_pos hx, if_pos (List.mem_map_of_mem hx)]
    · rw [if_neg hx, if_neg (mt (List.mem_map_of_injective hf).1 hx), List.map_append,
        List.map_singleton]

theorem eraseDups_filter {α : Type*} [BEq α] [LawfulBEq α] (p : α → Bool) (l : List α) :
    (l.filter p).eraseDups = l.eraseDups.filter p := by
  induction l using List.reverseRecOn with
  | nil => rfl
  | append_singleton l x ih =>
    rw [List.filter_append, eraseDups_concat]
    by_cases hp : p x = true
    · have hone : [x].filter p = [x] := by simp [hp]
      rw [hone, eraseDups_concat, ih]
      by_cases hx : x ∈ l
      · rw [if_pos hx, if_pos (List.mem_filter.2 ⟨hx, hp⟩)]
      · rw [if_neg hx, if_neg (mt List.mem_of_mem_filter hx), List.filter_append, hone]
    · have hnone : [x].filter p = [] := by simp [hp]
      rw [hnone, List.append_nil, ih]
      split
      · rfl
      · rw [List.filter_append, hnone, List.append_nil]

theorem nodup_eraseDups {α : Type*} [BEq α] [LawfulBEq α] (l : List α) : l.eraseDups.Nodup := by
  induction l using List.reverseRecOn with
  | nil => exact List.nodup_nil
  | append_singleton l x ih =>
    rw [eraseDups_concat]
    split
    case isTrue => exact ih
    case isFalse hx => exact List.nodup_append_comm.1 (List.nodup_cons.2 ⟨by simpa using hx, ih⟩)

theorem perm_eraseDups {α : Type*} [BEq α] [LawfulBEq α] {l l' : List α} (h : l'.Perm l) :
    l'.eraseDups.Perm l.eraseDups := by
  refine (List.perm_ext_iff_of_nodup (nodup_eraseDups l') (nodup_eraseDups l)).2 fun x => ?_
  rw [List.mem_eraseDups, List.mem_eraseDups, h.mem_iff]

/-! ### What a graph can be asked to do -/

inductive Call where
  | node (n : Node)
  | edge (source target : Key)
  deriving DecidableEq, Repr

def Call.node? : Call → Option Node
  | node n => some n
  | edge _ _ => none

namespace Graph

def call (g : Graph) : Call → Graph
  | .node n => g.addNode n
  | .edge source target => (g.addEdge source target).1

/-- The graph that a sequence of calls makes of the empty one. -/
def build (calls : List Call) : Graph := calls.foldl call empty

/-! ### What a sequence of calls says -/

/-- The nodes that are offered, with those that come too late. -/
def offered (calls : List Call) : List Node := calls.filterMap Call.node?

/-- The distinct keys of the nodes offered, in the order in which they first come. -/
def arrivals (calls : List Call) : List Key := ((offered calls).map Node.key).eraseDups

/-- The first node offered under a key. -/
def first? (calls : List Call) (k : Key) : Option Node := (offered calls).find? (·.key = k)

/-- How often an edge is asked for when both its ends have arrived. -/
def accepted (calls : List Call) (a b : Key) : Nat :=
  (List.range calls.length).countP fun i =>
    calls[i]? = some (.edge a b) ∧ a ∈ arrivals (calls.take i) ∧ b ∈ arrivals (calls.take i)

theorem offered_concat_node (calls : List Call) (n : Node) :
    offered (calls ++ [.node n]) = offered calls ++ [n] := List.filterMap_append

theorem offered_concat_edge (calls : List Call) (a b : Key) :
    offered (calls ++ [.edge a b]) = offered calls := by
  simp [offered, Call.node?]

theorem mem_arrivals {calls : List Call} {k : Key} :
    k ∈ arrivals calls ↔ ∃ n, .node n ∈ calls ∧ n.key = k := by
  rw [arrivals, List.mem_eraseDups, List.mem_map]
  refine exists_congr fun n => and_congr_left fun _ => ?_
  rw [offered, List.mem_filterMap]
  constructor
  · rintro ⟨c, hc, hn⟩
    cases c with
    | node m => exact Option.some.inj hn ▸ hc
    | edge => simp [Call.node?] at hn
  · exact fun h => ⟨_, h, rfl⟩

theorem arrivals_concat_node (calls : List Call) (n : Node) :
    arrivals (calls ++ [.node n]) =
      if n.key ∈ arrivals calls then arrivals calls else arrivals calls ++ [n.key] := by
  rw [arrivals, offered_concat_node, List.map_append, List.map_singleton, eraseDups_concat]
  simp only [arrivals, List.mem_eraseDups]

theorem arrivals_concat_edge (calls : List Call) (a b : Key) :
    arrivals (calls ++ [.edge a b]) = arrivals calls := by
  rw [arrivals, offered_concat_edge, arrivals]

theorem accepted_concat (calls : List Call) (c : Call) (a b : Key) :
    accepted (calls ++ [c]) a b = accepted calls a b +
      if c = .edge a b ∧ a ∈ arrivals calls ∧ b ∈ arrivals calls then 1 else 0 := by
  rw [accepted, List.length_append, List.length_singleton, List.range_succ, List.countP_append]
  congr 1
  · refine List.countP_congr fun i hi => ?_
    have hi : i < calls.length := List.mem_range.1 hi
    rw [List.getElem?_append_left hi, List.take_append_of_le_length (Nat.le_of_lt hi)]
  · rw [List.countP_singleton, List.take_left', List.getElem?_concat_length]
    · simp
    · rfl

/-! ### The graph follows the calls -/

theorem build_concat (calls : List Call) (c : Call) :
    build (calls ++ [c]) = (build calls).call c := List.foldl_concat ..

theorem InStep.call {g : Graph} (h : InStep g) (c : Call) : InStep (g.call c) := by
  cases c with
  | node n => exact h.addNode n
  | edge a b => exact h.addEdge a b

theorem inStep_build (calls : List Call) : InStep (build calls) := by
  induction calls using List.reverseRecOn with
  | nil => exact inStep_empty
  | append_singleton calls c ih =>
    rw [build_concat]
    exact ih.call c

theorem keys_build (calls : List Call) : (build calls).keys = arrivals calls := by
  induction calls using List.reverseRecOn with
  | nil => rfl
  | append_singleton calls c ih =>
    rw [build_concat]
    cases c with
    | node n => rw [call, keys_addNode (inStep_build calls), ih, arrivals_concat_node]
    | edge a b => rw [call, keys_addEdge, ih, arrivals_concat_edge]

theorem countOf_build (calls : List Call) (a b : Key) :
    (build calls).countOf a b = accepted calls a b := by
  induction calls using List.reverseRecOn with
  | nil => rfl
  | append_singleton calls c ih =>
    have h := inStep_build calls
    rw [build_concat, accepted_concat, ← ih, ← keys_build]
    cases c with
    | node n => simp [call, countOf_addNode h]
    | edge s t =>
      by_cases hk : s ∈ (build calls).keys ∧ t ∈ (build calls).keys
      · rw [call, countOf_addEdge h hk.1 hk.2]
        by_cases hab : (s, t) = (a, b)
        · obtain ⟨rfl, rfl⟩ := Prod.mk.inj hab
          simp [hk]
        · have hne : ¬ (Call.edge s t = .edge a b) := fun he => by
            cases he
            exact hab rfl
          rw [if_neg hab, if_neg fun hc => hne hc.1]
      · have hne : ¬ (Call.edge s t = .edge a b ∧
            a ∈ (build calls).keys ∧ b ∈ (build calls).keys) := by
          rintro ⟨⟨⟩, hab⟩
          exact hk hab
        rw [call, addEdge_of_not_mem h hk, if_neg hne, Nat.add_zero]

/-- Nodes of different keys are all there, in the order in which they were added. -/
theorem nodes_build_of_nodup {nodes : List Node} (h : (nodes.map Node.key).Nodup) :
    (build (nodes.map .node)).nodes = nodes := by
  induction nodes using List.reverseRecOn with
  | nil => rfl
  | append_singleton nodes n ih =>
    rw [List.map_append, List.map_singleton, List.nodup_append] at h
    obtain ⟨hnodes, -, hn⟩ := h
    have hnew : n.key ∉ (build (nodes.map .node)).keys := by
      rw [keys, ih hnodes]
      exact fun hmem => hn n.key hmem n.key (by simp) rfl
    rw [List.map_append, List.map_singleton, build_concat, call,
      nodes_addNode (inStep_build _), if_neg hnew, ih hnodes]

/-- Nodes whose keys are told apart from the others make what is left without those. -/
theorem nodes_build_filter (keep : Key → Bool) (nodes : List Node) :
    (build ((nodes.filter (keep ·.key)).map .node)).nodes =
      (build (nodes.map .node)).nodes.filter (keep ·.key) := by
  induction nodes using List.reverseRecOn with
  | nil => rfl
  | append_singleton nodes n ih =>
    have hmem : keep n.key = true → (n.key ∈ (build ((nodes.filter (keep ·.key)).map .node)).keys ↔
        n.key ∈ (build (nodes.map .node)).keys) := by
      intro hkeep
      rw [keys, ih, keys]
      grind
    rw [List.map_append, List.map_singleton, build_concat, call, nodes_addNode (inStep_build _),
      List.filter_append]
    by_cases hkeep : keep n.key = true
    · have hone : [n].filter (keep ·.key) = [n] := by simp [hkeep]
      rw [hone, List.map_append, List.map_singleton, build_concat, call,
        nodes_addNode (inStep_build _), ih]
      by_cases hk : n.key ∈ (build (nodes.map .node)).keys
      · rw [if_pos ((hmem hkeep).2 hk), if_pos hk]
      · rw [if_neg (mt (hmem hkeep).1 hk), if_neg hk, List.filter_append, hone]
    · have hnone : [n].filter (keep ·.key) = [] := by simp [hkeep]
      rw [hnone, List.append_nil, ih]
      split
      · rfl
      · rw [List.filter_append, hnone, List.append_nil]

theorem find?_build (calls : List Call) (k : Key) :
    (build calls).nodes.find? (·.key = k) = first? calls k := by
  induction calls using List.reverseRecOn with
  | nil => rfl
  | append_singleton calls c ih =>
    have h := inStep_build calls
    rw [build_concat, first?]
    cases c with
    | edge a b => rw [call, nodes_addEdge, ih, offered_concat_edge, first?]
    | node n =>
      rw [call, offered_concat_node, List.find?_append, ← first?, ← ih]
      by_cases hk : n.key ∈ (build calls).keys
      · rw [addNode_of_mem h hk]
        by_cases hn : n.key = k
        · -- the first node under this key is already there
          have hsome : ((build calls).nodes.find? (·.key = k)).isSome := by
            rw [List.find?_isSome]
            obtain ⟨m, hm, heq⟩ := List.mem_map.1 hk
            exact ⟨m, hm, by simp [heq, hn]⟩
          rw [Option.or_of_isSome hsome]
        · simp [hn]
      · rw [nodes_addNode h, if_neg hk, List.find?_append]

/-- A graph told from the calls that made it. -/
structure Records (calls : List Call) (g : Graph) : Prop where
  /-- The arrivals are the keys ever added, -/
  arrived : ∀ k, k ∈ arrivals calls ↔ ∃ n, .node n ∈ calls ∧ n.key = k
  /-- each of them once, -/
  distinct : (arrivals calls).Nodup
  /-- and the index takes them one to one to the places of the nodes. -/
  index : ∀ k i, g.indexOf? k = some i ↔ (arrivals calls)[i]? = some k
  /-- At each place stands the node that was first added under its key, -/
  nodes : g.nodes.map some = (arrivals calls).map (first? calls)
  /-- and adding another one changes nothing. -/
  again : ∀ n, n.key ∈ arrivals calls → g.addNode n = g
  /-- Between two places there is at most one edge. -/
  single : (g.edges.map Edge.ends).Nodup
  /-- Every edge joins two keys, -/
  joined : g.arcs.length = g.edgeCount
  /-- and counts how often it was asked for with both keys there. -/
  counts : ∀ a b n, ⟨a, b, n⟩ ∈ g.arcs ↔ 0 < n ∧ n = accepted calls a b
  /-- Such a call is the only one that succeeds, -/
  succeeds : ∀ a b, (g.addEdge a b).2 = true ↔ a ∈ arrivals calls ∧ b ∈ arrivals calls
  /-- and one that fails changes nothing. -/
  rejects : ∀ a b, (g.addEdge a b).2 = false → (g.addEdge a b).1 = g
  /-- An edge is no edge the other way round, -/
  directed : ∀ a b, a ≠ b → (g.addEdge a b).1.countOf b a = g.countOf b a
  /-- and may lead from a node to itself. -/
  loops : ∀ a, a ∈ arrivals calls → (g.addEdge a a).1.countOf a a = g.countOf a a + 1
  /-- Files and external modules are all the nodes, one for each key. -/
  kinds : g.nodeCount = g.fileCount + g.externalCount
  size : g.nodeCount = (arrivals calls).length

theorem nodeCount_eq (g : Graph) : g.nodeCount = g.fileCount + g.externalCount := by
  rw [nodeCount, fileCount, externalCount, ← List.countP_eq_length_filter,
    ← List.countP_eq_length_filter, List.length_eq_countP_add_countP Node.isExternal, Nat.add_comm]
  congr 1
  exact List.countP_congr fun n _ => by simp

/-- The nodes of a graph in step, each found under its own key. -/
theorem InStep.map_some_nodes {g : Graph} (h : InStep g) :
    g.nodes.map some = g.keys.map fun k => g.nodes.find? (·.key = k) := by
  rw [keys, List.map_map]
  refine List.map_congr_left fun n hn => ?_
  obtain ⟨m, hm⟩ := Option.isSome_iff_exists.1
    (List.find?_isSome (p := fun m : Node => decide (m.key = n.key)) |>.2 ⟨n, hn, by simp⟩)
  have hkey : m.key = n.key := by simpa using List.find?_some hm
  have heq := h.eq_of_key_eq (List.mem_of_find?_eq_some hm) hn hkey
  exact (hm.trans (congrArg some heq)).symm

/-- Whatever is asked of a graph, in whatever order, it is what the calls say. -/
theorem records_build (calls : List Call) : Records calls (build calls) := by
  have h := inStep_build calls
  have hkeys := keys_build calls
  refine
    { arrived := fun k => mem_arrivals
      distinct := hkeys ▸ h.nodup_keys
      index := fun k i => hkeys ▸ h.index k i
      nodes := ?nodes
      again := fun n hn => addNode_of_mem h (hkeys ▸ hn)
      single := h.single
      joined := length_arcs h
      counts := ?counts
      succeeds := fun a b => hkeys ▸ addEdge_snd h
      rejects := ?rejects
      directed := ?directed
      loops := ?loops
      kinds := nodeCount_eq _
      size := ?size }
  case nodes =>
    rw [h.map_some_nodes, hkeys]
    exact List.map_congr_left fun k _ => find?_build calls k
  case counts =>
    intro a b n
    rw [mem_arcs h, countOf_build, eq_comm (a := n)]
  case rejects =>
    intro a b hf
    rw [addEdge_of_not_mem h fun hk => by simp [(addEdge_snd h).2 hk] at hf]
  case directed =>
    intro a b hab
    by_cases hk : a ∈ (build calls).keys ∧ b ∈ (build calls).keys
    · rw [countOf_addEdge h hk.1 hk.2, if_neg fun he => hab (Prod.mk.inj he).1, Nat.add_zero]
    · rw [addEdge_of_not_mem h hk]
  case loops =>
    intro a ha
    rw [← hkeys] at ha
    rw [countOf_addEdge h ha ha, if_pos rfl]
  case size =>
    rw [← hkeys, keys, List.length_map, nodeCount]

end Graph

end ImportWeb
