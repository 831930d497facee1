import ImportWeb.Graph
import ImportWeb.Json

/-!
A graph written out as two sorted lists, which is what every renderer reads: files before
external modules and each group by identifier, edges by their ends. A listing has a JSON form
that reads back.
-/

namespace ImportWeb

structure ListedNode where
  id : String
  label : String
  size : Nat
  shape : Shape
  external : Bool
  /-- Absent for external modules. -/
  lines : Option Nat
  deriving DecidableEq, Repr, Inhabited

structure ListedEdge where
  source : String
  target : String
  count : Nat
  deriving DecidableEq, Repr, Inhabited

structure Listing where
  nodes : List ListedNode
  edges : List ListedEdge
  deriving DecidableEq, Repr, Inhabited

def ListedNode.ofNode (n : Node) : ListedNode :=
  ⟨n.key.id, n.label, n.size, n.shape, n.isExternal, n.lines?⟩

/-- Files come first, then the identifiers decide. -/
def ListedNode.le (a b : ListedNode) : Bool :=
  if a.external = b.external then a.id ≤ b.id else b.external

def ListedEdge.ofArc (a : Arc) : ListedEdge := ⟨a.source.id, a.target.id, a.count⟩

/-- The source decides, then the target. -/
def ListedEdge.le (a b : ListedEdge) : Bool :=
  if a.source = b.source then a.target ≤ b.target else a.source ≤ b.source

/-- The sorted lists of a graph; equal ones keep the graph's order. -/
def Graph.listing (g : Graph) : Listing :=
  ⟨(g.nodes.map ListedNode.ofNode).mergeSort ListedNode.le,
    (g.arcs.map ListedEdge.ofArc).mergeSort ListedEdge.le⟩

namespace Listing

/-- The node that an end of an edge names: the last one under that identifier. -/
def indexOf? (l : Listing) (id : String) : Option Nat :=
  let rec go (i : Nat) (found : Option Nat) : List ListedNode → Option Nat
    | [] => found
    | n :: rest => go (i + 1) (if n.id = id then some i else found) rest
  go 0 none l.nodes

/-- The edges with both ends listed, as positions of nodes. -/
def joined (l : Listing) : List (Nat × Nat × Nat) :=
  l.edges.filterMap fun e => do
    return (← l.indexOf? e.source, ← l.indexOf? e.target, e.count)

end Listing

/-! ### The JSON form -/

def Shape.name : Shape → String
  | dot => "dot"
  | diamond => "diamond"

def Shape.ofName? : String → Option Shape
  | "dot" => some dot
  | "diamond" => some diamond
  | _ => none

namespace Listing

def nodeJson (n : ListedNode) : Json :=
  .object ([("id", .string n.id), ("label", .string n.label), ("size", .integer n.size),
    ("shape", .string n.shape.name), ("external", .bool n.external)] ++
    (n.lines.map fun lines => ("lines", Json.integer lines)).toList)

def edgeJson (e : ListedEdge) : Json :=
  .object [("from", .string e.source), ("to", .string e.target), ("count", .integer e.count)]

def toJson (l : Listing) : Json :=
  .object [("nodes", .array (l.nodes.map nodeJson)), ("edges", .array (l.edges.map edgeJson))]

/-- The values of a record's fields: an object has them by name, of which the optional ones
may be missing, and an array has them all in order. -/
def record? (required optional : List String) : Json → Option (List Json)
  | .array items => if items.length = required.length + optional.length then some items else none
  | j@(.object _) => do
    let values ← required.mapM j.field?
    return values ++ optional.map fun key => (j.field? key).getD .null
  | _ => none

/-- A shape by its name, alone or as an object's key over null. -/
def shapeOf? : Json → Option Shape
  | .string name => Shape.ofName? name
  | .object [(name, .null)] => Shape.ofName? name
  | _ => none

def linesOf? : Json → Option (Option Nat)
  | .null => some none
  | j => (j.natBelow? (Nat.pow 2 64)).map some

def nodeOf? (j : Json) : Option ListedNode := do
  match ← record? ["id", "label", "size", "shape", "external"] ["lines"] j with
  | [id, label, size, shape, external, lines] =>
    return ⟨← id.string?, ← label.string?, ← size.natBelow? (Nat.pow 2 32), ← shapeOf? shape,
      ← external.bool?, ← linesOf? lines⟩
  | _ => none

def edgeOf? (j : Json) : Option ListedEdge := do
  match ← record? ["from", "to", "count"] [] j with
  | [source, target, count] =>
    return ⟨← source.string?, ← target.string?, ← count.natBelow? (Nat.pow 2 64)⟩
  | _ => none

def ofJson? (j : Json) : Option Listing := do
  match ← record? ["nodes", "edges"] [] j with
  | [nodes, edges] =>
    return ⟨← (← nodes.array?).mapM nodeOf?, ← (← edges.array?).mapM edgeOf?⟩
  | _ => none

end Listing

end ImportWeb
