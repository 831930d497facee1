import Mathlib.Algebra.GroupWithZero.Nat
import Mathlib.Data.List.Nodup
import ImportWeb.Graph

/-!
A graph and its index. `addNode` extends nodes and index together and `addEdge` joins places
that the index gives, so the two stay in step: the index finds exactly the places of the stored
keys, and between two places there is at most one edge. A graph in step is read by keys alone,
through `keys` and `countOf`, and no later proof looks at a place again.
-/

namespace ImportWeb

/-- The places that an edge joins. -/
def Edge.ends (e : Edge) : Nat × Nat := (e.source, e.target)

/-- The keys that an arc joins. -/
def Arc.ends (a : Arc) : Key × Key := (a.source, a.target)

namespace Graph

/-- The keys of the nodes in their order. -/
def keys (g : Graph) : List Key := g.nodes.map Node.key

/-- The imports on all edges. -/
def total (g : Graph) : Nat := (g.edges.map Edge.count).sum

/-! ### Counting on a list of edges -/

section Edges
variable {i j a b : Nat} {es : List Edge}

theorem countBetween_cons (e : Edge) (es : List Edge) (a b : Nat) :
    countBetween (e :: es) a b = if e.ends = (a, b) then e.count else countBetween es a b := by
  by_cases h : e.source = a ∧ e.target = b <;> simp [countBetween, Edge.ends, h]

theorem countBetween_bump (es : List Edge) (i j a b : Nat) :
    countBetween (bump i j es) a b =
      countBetween es a b + if (i, j) = (a, b) then 1 else 0 := by
  induction es with
  | nil =>
    by_cases h : i = a ∧ j = b <;> simp [bump, countBetween, h]
  | cons e rest ih =>
    by_cases he : e.source = i ∧ e.target = j
    · have hends : e.ends = (i, j) := Prod.ext he.1 he.2
      rw [bump, if_pos he, countBetween_cons, countBetween_cons, ← hends]
      by_cases hab : e.ends = (a, b)
      · rw [if_pos hab, if_pos hab]
        exact if_pos hab
      · rw [if_neg hab, if_neg hab]
        exact if_neg hab
    · rw [bump, if_neg he, countBetween_cons, countBetween_cons, ih]
      by_cases hab : e.ends = (a, b)
      · have hij : (i, j) ≠ (a, b) := fun h => he (by simpa [Edge.ends, ← h] using hab)
        rw [if_pos hab, if_pos hab, if_neg hij, Nat.add_zero]
      · rw [if_neg hab, if_neg hab]

theorem sum_count_bump (i j : Nat) (es : List Edge) :
    ((bump i j es).map Edge.count).sum = (es.map Edge.count).sum + 1 := by
  induction es with
  | nil => rfl
  | cons e rest ih =>
    by_cases he : e.source = i ∧ e.target = j
    · simp only [bump, he, and_self, if_true, List.map_cons, List.sum_cons]
      omega
    · simp only [bump, he, if_false, List.map_cons, List.sum_cons, ih]
      omega

theorem ends_bump (i j : Nat) (es : List Edge) :
    (bump i j es).map Edge.ends =
      if (i, j) ∈ es.map Edge.ends then es.map Edge.ends else es.map Edge.ends ++ [(i, j)] := by
  induction es with
  | nil => rfl
  | cons e rest ih =>
    by_cases he : e.source = i ∧ e.target = j
    · obtain ⟨rfl, rfl⟩ := he
      simp [bump, Edge.ends]
    · have hne : (i, j) ≠ e.ends := fun h => he (by simpa [Edge.ends, eq_comm] using h)
      rw [bump, if_neg he, List.map_cons, ih]
      by_cases hm : (i, j) ∈ rest.map Edge.ends
      · rw [if_pos hm, List.map_cons, if_pos (List.mem_cons_of_mem _ hm)]
      · rw [if_neg hm, List.map_cons, if_neg (by simpa [hne] using hm), List.cons_append]

theorem mem_ends_bump {p : Nat × Nat} :
    p ∈ (bump i j es).map Edge.ends ↔ p = (i, j) ∨ p ∈ es.map Edge.ends := by
  rw [ends_bump]
  split <;> grind

theorem nodup_ends_bump (h : (es.map Edge.ends).Nodup) : ((bump i j es).map Edge.ends).Nodup := by
  rw [ends_bump]
  split
  case isTrue => exact h
  case isFalse hm =>
    refine List.nodup_append.2 ⟨h, List.nodup_singleton _, ?_⟩
    intro p hp q hq heq
    rw [List.mem_singleton] at hq
    exact hm (hq ▸ heq ▸ hp)

theorem positive_bump (h : ∀ e ∈ es, 0 < e.count) : ∀ e ∈ bump i j es, 0 < e.count := by
  induction es with
  | nil => simp [bump]
  | cons e rest ih =>
    rw [List.forall_mem_cons] at h
    rw [bump]
    split
    · exact List.forall_mem_cons.2 ⟨Nat.succ_pos _, h.2⟩
    · exact List.forall_mem_cons.2 ⟨h.1, ih h.2⟩

theorem countBetween_of_mem (hs : (es.map Edge.ends).Nodup) {e : Edge} (he : e ∈ es) :
    countBetween es e.source e.target = e.count := by
  induction es with
  | nil => simp at he
  | cons d rest ih =>
    rw [List.map_cons, List.nodup_cons] at hs
    rw [countBetween_cons]
    rcases List.mem_cons.1 he with rfl | he
    · exact if_pos rfl
    · have hne : d.ends ≠ e.ends := fun h => hs.1 (h ▸ List.mem_map_of_mem he)
      exact (if_neg hne).trans (ih hs.2 he)

theorem exists_mem_of_countBetween (h : 0 < countBetween es a b) :
    ∃ e ∈ es, e.source = a ∧ e.target = b ∧ e.count = countBetween es a b := by
  unfold countBetween at h ⊢
  split at h
  case h_1 e he =>
    have hab : e.source = a ∧ e.target = b := by simpa using List.find?_some he
    exact ⟨e, List.mem_of_find?_eq_some he, hab.1, hab.2, rfl⟩
  case h_2 => exact absurd h (Nat.lt_irrefl 0)

end Edges

/-! ### The invariant -/

/-- Nodes, index and edges fit together. -/
structure InStep (g : Graph) : Prop where
  index : ∀ k i, g.indexOf? k = some i ↔ g.keys[i]? = some k
  ends_lt : ∀ p ∈ g.edges.map Edge.ends, p.1 < g.nodes.length ∧ p.2 < g.nodes.length
  single : (g.edges.map Edge.ends).Nodup
  positive : ∀ e ∈ g.edges, 0 < e.count

theorem inStep_empty : InStep empty where
  index k i := by simp [indexOf?, keys, empty]
  ends_lt := by simp [empty]
  single := by simp [empty]
  positive := by simp [empty]

variable {g : Graph}

namespace InStep

theorem contains_iff (h : InStep g) {k : Key} : g.contains k = true ↔ k ∈ g.keys := by
  rw [contains, Option.isSome_iff_exists, List.mem_iff_getElem?]
  exact exists_congr fun i => h.index k i

theorem indexOf?_eq_none (h : InStep g) {k : Key} (hk : k ∉ g.keys) : g.indexOf? k = none := by
  rw [← h.contains_iff, contains] at hk
  simpa using hk

theorem exists_indexOf? (h : InStep g) {k : Key} (hk : k ∈ g.keys) :
    ∃ i, g.indexOf? k = some i := by
  rw [← h.contains_iff, contains] at hk
  exact Option.isSome_iff_exists.1 hk

theorem nodup_keys (h : InStep g) : g.keys.Nodup := by
  rw [List.nodup_iff_getElem?_ne_getElem?]
  intro i j hij hj heq
  rw [List.getElem?_eq_getElem hj] at heq
  have hi := (h.index _ i).2 heq
  have hj := (h.index _ j).2 (List.getElem?_eq_getElem hj)
  rw [hi] at hj
  cases hj
  exact Nat.lt_irrefl _ hij

theorem eq_of_key_eq (h : InStep g) {m n : Node} (hm : m ∈ g.nodes) (hn : n ∈ g.nodes)
    (heq : m.key = n.key) : m = n := List.inj_on_of_nodup_map h.nodup_keys hm hn heq

/-- Two keys stand at one place only if they are the same. -/
theorem indexOf?_inj (h : InStep g) {k l : Key} {i : Nat} (hk : g.indexOf? k = some i)
    (hl : g.indexOf? l = some i) : k = l := by
  rw [h.index] at hk hl
  exact Option.some.inj (hk.symm.trans hl)

end InStep

/-! ### Adding a node -/

theorem nodes_addNode (h : InStep g) (n : Node) :
    (g.addNode n).nodes = if n.key ∈ g.keys then g.nodes else g.nodes ++ [n] := by
  by_cases hk : n.key ∈ g.keys
  · rw [if_pos hk, addNode, if_pos (h.contains_iff.2 hk)]
  · rw [if_neg hk, addNode, if_neg (mt h.contains_iff.1 hk)]

theorem keys_addNode (h : InStep g) (n : Node) :
    (g.addNode n).keys = if n.key ∈ g.keys then g.keys else g.keys ++ [n.key] := by
  rw [keys, nodes_addNode h]
  split
  · rfl
  · rw [List.map_append, List.map_singleton, ← keys]

theorem addNode_of_mem (h : InStep g) {n : Node} (hk : n.key ∈ g.keys) : g.addNode n = g := by
  rw [addNode, if_pos (h.contains_iff.2 hk)]

theorem mem_keys_addNode (h : InStep g) {n : Node} {k : Key} :
    k ∈ (g.addNode n).keys ↔ k = n.key ∨ k ∈ g.keys := by
  rw [keys_addNode h]
  split <;> grind

theorem edges_addNode (g : Graph) (n : Node) : (g.addNode n).edges = g.edges := by
  rw [addNode]
  split <;> rfl

theorem indexOf?_addNode (h : InStep g) {n : Node} (hn : n.key ∉ g.keys) (k : Key) :
    (g.addNode n).indexOf? k = if k = n.key then some g.nodes.length else g.indexOf? k := by
  rw [addNode, if_neg (mt h.contains_iff.1 hn), indexOf?, List.lookup_cons]
  by_cases hk : k = n.key
  · simp [hk]
  · rw [if_neg hk, beq_false_of_ne hk]
    rfl

/-- The new key stands at the new place, the old ones where they were. -/
theorem index_addNode (h : InStep g) {n : Node} (hn : n.key ∉ g.keys) (k : Key) (i : Nat) :
    (g.addNode n).indexOf? k = some i ↔ (g.keys ++ [n.key])[i]? = some k := by
  have hlen : g.keys.length = g.nodes.length := List.length_map _
  have hbeyond : ∀ j, g.nodes.length ≤ j → g.indexOf? k ≠ some j := fun j hj => by
    rw [ne_eq, h.index, List.getElem?_eq_none (hlen ▸ hj)]
    simp
  rw [indexOf?_addNode h hn]
  rcases Nat.lt_trichotomy i g.nodes.length with hi | rfl | hi
  · rw [List.getElem?_append_left (by omega), ← h.index]
    by_cases hkn : k = n.key
    · subst hkn
      rw [if_pos rfl, h.indexOf?_eq_none hn]
      simp [Nat.ne_of_gt hi]
    · rw [if_neg hkn]
  · rw [List.getElem?_append_right (by omega), hlen, Nat.sub_self]
    by_cases hkn : k = n.key
    · simp [hkn]
    · rw [if_neg hkn]
      simpa [eq_comm, hkn] using hbeyond _ (Nat.le_refl _)
  · rw [List.getElem?_eq_none (by simp [hlen]; omega)]
    split
    · simp [Nat.ne_of_lt hi]
    · simpa using hbeyond i (Nat.le_of_lt hi)

theorem InStep.addNode (h : InStep g) (n : Node) : InStep (g.addNode n) := by
  by_cases hk : n.key ∈ g.keys
  · rwa [addNode_of_mem h hk]
  have hkeys : (g.addNode n).keys = g.keys ++ [n.key] := by rw [keys_addNode h, if_neg hk]
  have hnodes : (g.addNode n).nodes.length = g.nodes.length + 1 := by
    rw [nodes_addNode h, if_neg hk, List.length_append, List.length_singleton]
  refine ⟨?_, ?_, ?_, ?_⟩
  · intro k i
    rw [hkeys]
    exact index_addNode h hk k i
  · rw [edges_addNode, hnodes]
    intro p hp
    have := h.ends_lt p hp
    omega
  · rw [edges_addNode]
    exact h.single
  · rw [edges_addNode]
    exact h.positive

theorem countOf_of_index {a b : Key} {i j : Nat} (hi : g.indexOf? a = some i)
    (hj : g.indexOf? b = some j) : g.countOf a b = countBetween g.edges i j := by
  simp only [countOf, hi, hj]

theorem countOf_eq_zero (h : InStep g) {a b : Key} (hk : a ∉ g.keys ∨ b ∉ g.keys) :
    g.countOf a b = 0 := by
  rcases hk with hk | hk <;> simp [countOf, h.indexOf?_eq_none hk]

theorem countOf_addNode (h : InStep g) (n : Node) (a b : Key) :
    (g.addNode n).countOf a b = g.countOf a b := by
  by_cases hk : n.key ∈ g.keys
  · rw [addNode_of_mem h hk]
  -- no edge reaches the new place
  have hfresh : ∀ i j, i = g.nodes.length ∨ j = g.nodes.length → countBetween g.edges i j = 0 := by
    intro i j hij
    by_contra hc
    obtain ⟨e, he, hi, hj, -⟩ := exists_mem_of_countBetween (Nat.pos_of_ne_zero hc)
    have := h.ends_lt e.ends (List.mem_map_of_mem he)
    simp only [Edge.ends] at this
    omega
  simp only [countOf, indexOf?_addNode h hk, edges_addNode]
  by_cases ha : a = n.key
  · have hnone : g.indexOf? a = none := h.indexOf?_eq_none (ha ▸ hk)
    rw [if_pos ha, hnone]
    cases if b = n.key then some g.nodes.length else g.indexOf? b with
    | none => rfl
    | some j => exact hfresh _ _ (.inl rfl)
  · rw [if_neg ha]
    by_cases hb : b = n.key
    · have hnone : g.indexOf? b = none := h.indexOf?_eq_none (hb ▸ hk)
      rw [if_pos hb, hnone]
      cases g.indexOf? a with
      | none => rfl
      | some i => exact hfresh _ _ (.inr rfl)
    · rw [if_neg hb]

theorem total_addNode (g : Graph) (n : Node) : (g.addNode n).total = g.total := by
  rw [total, edges_addNode, total]

/-! ### Adding an edge -/

theorem addEdge_of_mem (h : InStep g) {a b : Key} (ha : a ∈ g.keys) (hb : b ∈ g.keys) :
    ∃ i j, g.indexOf? a = some i ∧ g.indexOf? b = some j ∧
      g.addEdge a b = ({ g with edges := bump i j g.edges }, true) := by
  obtain ⟨i, hi⟩ := h.exists_indexOf? ha
  obtain ⟨j, hj⟩ := h.exists_indexOf? hb
  exact ⟨i, j, hi, hj, by simp only [addEdge, hi, hj]⟩

theorem addEdge_of_not_mem (h : InStep g) {a b : Key} (hk : ¬ (a ∈ g.keys ∧ b ∈ g.keys)) :
    g.addEdge a b = (g, false) := by
  rw [addEdge]
  by_cases ha : a ∈ g.keys
  · have hb : b ∉ g.keys := fun hb => hk ⟨ha, hb⟩
    rw [h.indexOf?_eq_none hb]
    cases g.indexOf? a <;> rfl
  · rw [h.indexOf?_eq_none ha]

theorem addEdge_snd (h : InStep g) {a b : Key} :
    (g.addEdge a b).2 = true ↔ a ∈ g.keys ∧ b ∈ g.keys := by
  constructor
  · intro ht
    by_contra hk
    rw [addEdge_of_not_mem h hk] at ht
    exact Bool.false_ne_true ht
  · rintro ⟨ha, hb⟩
    obtain ⟨i, j, -, -, heq⟩ := addEdge_of_mem h ha hb
    rw [heq]

theorem nodes_addEdge (g : Graph) (a b : Key) : (g.addEdge a b).1.nodes = g.nodes := by
  rw [addEdge]
  split <;> rfl

theorem keys_addEdge (g : Graph) (a b : Key) : (g.addEdge a b).1.keys = g.keys := by
  rw [keys, nodes_addEdge, keys]

theorem indexOf?_addEdge (g : Graph) (a b k : Key) :
    (g.addEdge a b).1.indexOf? k = g.indexOf? k := by
  rw [addEdge]
  split <;> rfl

theorem InStep.addEdge (h : InStep g) (a b : Key) : InStep (g.addEdge a b).1 := by
  by_cases hk : a ∈ g.keys ∧ b ∈ g.keys
  · obtain ⟨i, j, hi, hj, heq⟩ := addEdge_of_mem h hk.1 hk.2
    have hlt : ∀ {k : Key} {i : Nat}, g.indexOf? k = some i → i < g.nodes.length := by
      intro k i hki
      rw [h.index] at hki
      have hik := (List.getElem?_eq_some_iff.1 hki).1
      rwa [keys, List.length_map] at hik
    rw [heq]
    refine ⟨h.index, ?_, nodup_ends_bump h.single, positive_bump h.positive⟩
    intro p hp
    rcases mem_ends_bump.1 hp with rfl | hp
    · exact ⟨hlt hi, hlt hj⟩
    · exact h.ends_lt p hp
  · rwa [addEdge_of_not_mem h hk]

theorem countOf_addEdge (h : InStep g) {a b : Key} (ha : a ∈ g.keys) (hb : b ∈ g.keys)
    (c d : Key) :
    (g.addEdge a b).1.countOf c d = g.countOf c d + if (a, b) = (c, d) then 1 else 0 := by
  obtain ⟨i, j, hi, hj, heq⟩ := addEdge_of_mem h ha hb
  have hindex : ∀ k, (g.addEdge a b).1.indexOf? k = g.indexOf? k := indexOf?_addEdge g a b
  by_cases hcd : c ∈ g.keys ∧ d ∈ g.keys
  · obtain ⟨i', hi'⟩ := h.exists_indexOf? hcd.1
    obtain ⟨j', hj'⟩ := h.exists_indexOf? hcd.2
    -- places agree exactly when the keys do
    have hsame : (i, j) = (i', j') ↔ (a, b) = (c, d) := by
      constructor
      · rintro ⟨⟩
        rw [h.indexOf?_inj hi hi', h.indexOf?_inj hj hj']
      · rintro ⟨⟩
        rw [Option.some.inj (hi.symm.trans hi'), Option.some.inj (hj.symm.trans hj')]
    rw [countOf_of_index hi' hj',
      countOf_of_index ((hindex c).trans hi') ((hindex d).trans hj'), heq, countBetween_bump]
    simp only [hsame]
  · have hne : (a, b) ≠ (c, d) := by
      rintro ⟨⟩
      exact hcd ⟨ha, hb⟩
    have hzero : (g.addEdge a b).1.countOf c d = 0 := by
      refine countOf_eq_zero (h.addEdge a b) ?_
      rw [keys_addEdge]
      exact not_and_or.1 hcd
    rw [hzero, countOf_eq_zero h (not_and_or.1 hcd), if_neg hne]

theorem total_addEdge (h : InStep g) {a b : Key} (ha : a ∈ g.keys) (hb : b ∈ g.keys) :
    (g.addEdge a b).1.total = g.total + 1 := by
  obtain ⟨i, j, -, -, heq⟩ := addEdge_of_mem h ha hb
  rw [heq, total, total, sum_count_bump]

/-! ### Arcs -/

/-- The keys at two places. -/
def endKeys? (g : Graph) (p : Nat × Nat) : Option (Key × Key) := do
  return (← g.keys[p.1]?, ← g.keys[p.2]?)

theorem arc?_map_ends (g : Graph) (e : Edge) : (g.arc? e).map Arc.ends = g.endKeys? e.ends := by
  simp only [arc?, endKeys?, keys, Edge.ends, List.getElem?_map]
  cases g.nodes[e.source]? <;> cases g.nodes[e.target]? <;> rfl

/-- Every edge of a graph in step is an arc between stored keys. -/
theorem arc?_of_mem (h : InStep g) {e : Edge} (he : e ∈ g.edges) :
    ∃ a b, g.indexOf? a = some e.source ∧ g.indexOf? b = some e.target ∧
      g.arc? e = some ⟨a, b, e.count⟩ := by
  obtain ⟨hs, ht⟩ := h.ends_lt e.ends (List.mem_map_of_mem he)
  simp only [Edge.ends] at hs ht
  refine ⟨(g.nodes[e.source]).key, (g.nodes[e.target]).key, ?_, ?_, ?_⟩
  · rw [h.index, keys, List.getElem?_map, List.getElem?_eq_getElem hs]
    rfl
  · rw [h.index, keys, List.getElem?_map, List.getElem?_eq_getElem ht]
    rfl
  · rw [arc?, List.getElem?_eq_getElem hs, List.getElem?_eq_getElem ht]
    rfl

theorem length_arcs (h : InStep g) : g.arcs.length = g.edges.length := by
  refine List.filterMap_length_eq_length.2 fun e he => ?_
  obtain ⟨a, b, -, -, heq⟩ := arc?_of_mem h he
  rw [heq]
  rfl

theorem ends_arcs (g : Graph) :
    g.arcs.map Arc.ends = (g.edges.map Edge.ends).filterMap g.endKeys? := by
  rw [arcs, List.map_filterMap, List.filterMap_map]
  exact List.filterMap_congr fun e _ => arc?_map_ends g e

theorem nodup_ends_arcs (h : InStep g) : (g.arcs.map Arc.ends).Nodup := by
  rw [ends_arcs]
  refine List.Nodup.filterMap ?_ h.single
  rintro ⟨i, j⟩ ⟨i', j'⟩ ⟨a, b⟩ hp hq
  simp only [endKeys?, Option.mem_def] at hp hq
  obtain ⟨_, hi, _, hj, ⟨⟩⟩ : ∃ x, g.keys[i]? = some x ∧ ∃ y, g.keys[j]? = some y ∧
    (x, y) = (a, b) := by simpa [Option.bind_eq_some_iff] using hp
  obtain ⟨_, hi', _, hj', ⟨⟩⟩ : ∃ x, g.keys[i']? = some x ∧ ∃ y, g.keys[j']? = some y ∧
    (x, y) = (a, b) := by simpa [Option.bind_eq_some_iff] using hq
  rw [← h.index] at hi hj hi' hj'
  rw [Option.some.inj (hi.symm.trans hi'), Option.some.inj (hj.symm.trans hj')]

/-- The arcs are the pairs of keys with a positive count. -/
theorem mem_arcs (h : InStep g) {x : Arc} :
    x ∈ g.arcs ↔ 0 < x.count ∧ g.countOf x.source x.target = x.count := by
  rw [arcs, List.mem_filterMap]
  constructor
  · rintro ⟨e, he, hx⟩
    obtain ⟨a, b, ha, hb, heq⟩ := arc?_of_mem h he
    obtain rfl := Option.some.inj (heq.symm.trans hx)
    refine ⟨h.positive e he, ?_⟩
    rw [countOf_of_index ha hb]
    exact countBetween_of_mem h.single he
  · rintro ⟨hpos, hcount⟩
    have hmem : x.source ∈ g.keys ∧ x.target ∈ g.keys := by
      by_contra hk
      rw [countOf_eq_zero h (not_and_or.1 hk)] at hcount
      omega
    obtain ⟨i, hi⟩ := h.exists_indexOf? hmem.1
    obtain ⟨j, hj⟩ := h.exists_indexOf? hmem.2
    rw [countOf_of_index hi hj] at hcount
    obtain ⟨e, he, rfl, rfl, hec⟩ := exists_mem_of_countBetween (hcount ▸ hpos)
    obtain ⟨a, b, ha, hb, heq⟩ := arc?_of_mem h he
    refine ⟨e, he, ?_⟩
    rw [heq, h.indexOf?_inj ha hi, h.indexOf?_inj hb hj, hec, hcount]

theorem ends_mem_keys (h : InStep g) {x : Arc} (hx : x ∈ g.arcs) :
    x.source ∈ g.keys ∧ x.target ∈ g.keys := by
  obtain ⟨hpos, hcount⟩ := (mem_arcs h).1 hx
  by_contra hk
  rw [countOf_eq_zero h (not_and_or.1 hk)] at hcount
  omega

end Graph

end ImportWeb
