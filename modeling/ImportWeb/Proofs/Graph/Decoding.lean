import ImportWeb.Render
import ImportWeb.Proofs.Json.Written

/-!
The JSON form of a listing. Its text is read back as the same listing, as long as the sizes and
counts are words of the width that a reader keeps for them.
-/

namespace ImportWeb

def ListedNode.Fits (n : ListedNode) : Prop :=
  n.size < Nat.pow 2 32 ∧ ∀ lines ∈ n.lines, lines < Nat.pow 2 64

def ListedEdge.Fits (e : ListedEdge) : Prop := e.count < Nat.pow 2 64

namespace Listing

/-- A size is a word of 32 bits, and a count is one of 64. -/
structure Fits (l : Listing) : Prop where
  nodes : ∀ n ∈ l.nodes, n.Fits
  edges : ∀ e ∈ l.edges, e.Fits

/-! ### The written value -/

open Json in
theorem exact_nodeJson (n : ListedNode) : Exact (nodeJson n) := by
  refine .object fun f hf => ?_
  simp only [List.mem_append, List.mem_cons, List.not_mem_nil, or_false, Option.mem_toList,
    Option.map_eq_some_iff] at hf
  rcases hf with (rfl | rfl | rfl | rfl | rfl) | ⟨lines, -, rfl⟩
  · exact .string _
  · exact .string _
  · exact .integer _
  · exact .string _
  · exact .bool _
  · exact .integer _

open Json in
theorem exact_edgeJson (e : ListedEdge) : Exact (edgeJson e) := by
  refine .object fun f hf => ?_
  simp only [List.mem_cons, List.not_mem_nil, or_false] at hf
  rcases hf with rfl | rfl | rfl
  · exact .string _
  · exact .string _
  · exact .integer _

open Json in
theorem exact_toJson (l : Listing) : Exact l.toJson := by
  refine .object fun f hf => ?_
  simp only [List.mem_cons, List.not_mem_nil, or_false] at hf
  rcases hf with rfl | rfl
  · refine .array fun j hj => ?_
    obtain ⟨n, -, rfl⟩ := List.mem_map.1 hj
    exact exact_nodeJson n
  · refine .array fun j hj => ?_
    obtain ⟨e, -, rfl⟩ := List.mem_map.1 hj
    exact exact_edgeJson e

/-! ### The value read -/

theorem shapeOf?_name (shape : Shape) : shapeOf? (.string shape.name) = some shape := by
  cases shape <;> rfl

theorem natBelow?_integer (bound n : Nat) :
    (Json.integer n).natBelow? bound = if n < bound then some n else none := by
  simp [Json.natBelow?]

theorem linesOf?_integer (n : Nat) :
    linesOf? (.integer n) = if n < Nat.pow 2 64 then some (some n) else none := by
  have hread : linesOf? (.integer n) = ((Json.integer n).natBelow? (Nat.pow 2 64)).map some := rfl
  rw [hread, natBelow?_integer]
  split <;> rfl

theorem nodeOf?_of_record? {j id label size shape external lines : Json}
    (h : record? ["id", "label", "size", "shape", "external"] ["lines"] j =
      some [id, label, size, shape, external, lines]) :
    nodeOf? j = id.string?.bind fun id => label.string?.bind fun label =>
      (size.natBelow? (Nat.pow 2 32)).bind fun size => (shapeOf? shape).bind fun shape =>
        external.bool?.bind fun external => (linesOf? lines).bind fun lines =>
          some ⟨id, label, size, shape, external, lines⟩ := by
  rw [nodeOf?, h]
  rfl

theorem edgeOf?_of_record? {j source target count : Json}
    (h : record? ["from", "to", "count"] [] j = some [source, target, count]) :
    edgeOf? j = source.string?.bind fun source => target.string?.bind fun target =>
      (count.natBelow? (Nat.pow 2 64)).bind fun count => some ⟨source, target, count⟩ := by
  rw [edgeOf?, h]
  rfl

/-- A missing line count is read as none. -/
theorem record?_nodeJson (n : ListedNode) :
    record? ["id", "label", "size", "shape", "external"] ["lines"] (nodeJson n) =
      some [.string n.id, .string n.label, .integer n.size, .string n.shape.name,
        .bool n.external, (n.lines.map fun lines : Nat => Json.integer lines).getD .null] := by
  obtain ⟨id, label, size, shape, external, lines⟩ := n
  cases lines <;> rfl

theorem linesOf?_getD (lines : Option Nat) :
    linesOf? ((lines.map fun lines : Nat => Json.integer lines).getD .null) =
      if ∀ n ∈ lines, n < Nat.pow 2 64 then some lines else none := by
  cases lines with
  | none => exact (if_pos fun _ h => nomatch h).symm
  | some n =>
    have hall : (∀ m ∈ some n, m < Nat.pow 2 64) ↔ n < Nat.pow 2 64 := by
      simp only [Option.mem_def, Option.some.injEq, forall_eq']
    simp only [hall]
    exact linesOf?_integer n

theorem nodeOf?_nodeJson_iff (n : ListedNode) : nodeOf? (nodeJson n) = some n ↔ n.Fits := by
  have hread := nodeOf?_of_record? (record?_nodeJson n)
  rw [natBelow?_integer, shapeOf?_name, linesOf?_getD] at hread
  rw [hread]
  unfold ListedNode.Fits
  split_ifs with hsize hcount
  · exact iff_of_true rfl ⟨hsize, hcount⟩
  · exact iff_of_false (by rintro ⟨⟩) fun h => hcount h.2
  · exact iff_of_false (by rintro ⟨⟩) fun h => hsize h.1
  · exact iff_of_false (by rintro ⟨⟩) fun h => hsize h.1

theorem edgeOf?_edgeJson_iff (e : ListedEdge) : edgeOf? (edgeJson e) = some e ↔ e.Fits := by
  have hrecord : record? ["from", "to", "count"] [] (edgeJson e) =
      some [.string e.source, .string e.target, .integer e.count] := rfl
  have hread := edgeOf?_of_record? hrecord
  rw [natBelow?_integer] at hread
  rw [hread]
  unfold ListedEdge.Fits
  split_ifs with hcount
  · exact iff_of_true rfl hcount
  · exact iff_of_false (by rintro ⟨⟩) hcount

theorem mapM_map_eq_some_iff {α β : Type} {f : α → β} {g : β → Option α} (l : List α) :
    (l.map f).mapM g = some l ↔ ∀ x ∈ l, g (f x) = some x := by
  induction l with
  | nil => simp
  | cons x l ih =>
    simp only [List.map_cons, List.mapM_cons, List.forall_mem_cons, ← ih]
    cases g (f x) <;> cases (l.map f).mapM g <;> simp

theorem ofJson?_toJson_iff (l : Listing) : ofJson? l.toJson = some l ↔ l.Fits := by
  have hread : ofJson? l.toJson = ((l.nodes.map nodeJson).mapM nodeOf?).bind fun nodes =>
      ((l.edges.map edgeJson).mapM edgeOf?).bind fun edges => some ⟨nodes, edges⟩ := rfl
  have hnodes := mapM_map_eq_some_iff (f := nodeJson) (g := nodeOf?) l.nodes
  have hedges := mapM_map_eq_some_iff (f := edgeJson) (g := edgeOf?) l.edges
  simp only [nodeOf?_nodeJson_iff, edgeOf?_edgeJson_iff] at hnodes hedges
  constructor
  · intro h
    rw [hread] at h
    obtain ⟨nodes, hn, h⟩ := Option.bind_eq_some_iff.1 h
    obtain ⟨edges, he, h⟩ := Option.bind_eq_some_iff.1 h
    cases h
    exact ⟨hnodes.1 hn, hedges.1 he⟩
  · intro h
    rw [hread, hnodes.2 h.nodes, hedges.2 h.edges]
    rfl

/-- The JSON text of a listing is read back as that listing, exactly if its numbers fit. -/
theorem decode_render_iff (l : Listing) (p : Render.Physics) :
    (Json.parse? (l.render p .json).toList).bind ofJson? = some l ↔ l.Fits := by
  have hparse : Json.parse? (l.render p .json).toList = some l.toJson := by
    rw [render, Json.prettyText, String.toList_ofList]
    exact Json.parse?_of_spells (Json.spells_pretty l.exact_toJson 0)
  rw [hparse, Option.bind_some, ofJson?_toJson_iff]

end Listing

end ImportWeb
