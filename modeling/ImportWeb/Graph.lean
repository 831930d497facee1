import ImportWeb.RawPath
import ImportWeb.Size

/-!
The import graph. Nodes are the files of a project and the unresolved modules they import,
each with a key of its own kind; an edge runs from what is imported to the file that imports
it and counts how often it does. Nodes stay in the order in which they came, the first one
under a key wins, and an edge needs both its ends. Edges join places of nodes, which an index
finds by their keys.
-/

namespace ImportWeb

/-- The identity of a node. A file and an external module of the same text differ. -/
inductive Key where
  | file (path : String)
  | external (specifier : String)
  deriving DecidableEq, Repr, Inhabited

/-- The identifier under which a node is listed. -/
def Key.id : Key → String
  | file path => path
  | external specifier => "ext:" ++ specifier

/-- The key text of a file below `root`: its names joined by slashes. In a name that is no text,
replacement characters take the place of what cannot be read, so such names may share a key. -/
def Key.ofPath? {P : Type} [FilePath P] (root path : P) : Option String := do
  let components ← (FilePath.raw root).below? (FilePath.raw path)
  let names ← components.mapM Component.name?
  if names.isEmpty then none
  else some (String.ofList (Text.joinWith ['/'] (names.map Text.decode)))

/-- A scanned file. -/
structure ScannedFile where
  key : String
  path : RawPath
  lines : Nat
  deriving DecidableEq, Repr, Inhabited

inductive Node where
  | file (info : ScannedFile)
  | external (specifier : String)
  deriving DecidableEq, Repr, Inhabited

inductive Shape where
  | dot
  | diamond
  deriving DecidableEq, Repr, Inhabited

namespace Node

def key : Node → Key
  | file info => .file info.key
  | external specifier => .external specifier

/-- The text shown: the key or the specifier itself. -/
def label : Node → String
  | file info => info.key
  | external specifier => specifier

def size : Node → Nat
  | file info => fileSize info.lines
  | external _ => baseSize

def shape : Node → Shape
  | file _ => .dot
  | external _ => .diamond

def isExternal : Node → Bool
  | file _ => false
  | external _ => true

def lines? : Node → Option Nat
  | file info => some info.lines
  | external _ => none

end Node

/-- An import of the node at one place by the node at another, seen `count` times. -/
structure Edge where
  source : Nat
  target : Nat
  count : Nat
  deriving DecidableEq, Repr, Inhabited

/-- An edge told by the keys of its ends. -/
structure Arc where
  source : Key
  target : Key
  count : Nat
  deriving DecidableEq, Repr, Inhabited

/-- The index holds the place of every node by its key. -/
structure Graph where
  nodes : List Node
  edges : List Edge
  index : List (Key × Nat)
  deriving DecidableEq, Repr, Inhabited

namespace Graph

def empty : Graph := ⟨[], [], []⟩

/-- The place of a key in the order of first insertion. -/
def indexOf? (g : Graph) (k : Key) : Option Nat := g.index.lookup k

def contains (g : Graph) (k : Key) : Bool := (g.indexOf? k).isSome

def node? (g : Graph) (k : Key) : Option Node := (g.indexOf? k).bind fun i => g.nodes[i]?

/-- Adds a node unless its key is there. -/
def addNode (g : Graph) (n : Node) : Graph :=
  if g.contains n.key then g
  else { g with nodes := g.nodes ++ [n], index := (n.key, g.nodes.length) :: g.index }

/-- The count of the edge between two places, zero if there is none. -/
def countBetween (edges : List Edge) (source target : Nat) : Nat :=
  match edges.find? fun e => e.source = source ∧ e.target = target with
  | some e => e.count
  | none => 0

def countOf (g : Graph) (source target : Key) : Nat :=
  match g.indexOf? source, g.indexOf? target with
  | some i, some j => countBetween g.edges i j
  | _, _ => 0

/-- Counts one more import on an edge, which is appended if there is none. -/
def bump (source target : Nat) : List Edge → List Edge
  | [] => [⟨source, target, 1⟩]
  | e :: rest =>
    if e.source = source ∧ e.target = target then { e with count := e.count + 1 } :: rest
    else e :: bump source target rest

/-- Adds an edge between two nodes that are there, and says whether they are. -/
def addEdge (g : Graph) (source target : Key) : Graph × Bool :=
  match g.indexOf? source, g.indexOf? target with
  | some i, some j => ({ g with edges := bump i j g.edges }, true)
  | _, _ => (g, false)

def arc? (g : Graph) (e : Edge) : Option Arc := do
  return ⟨(← g.nodes[e.source]?).key, (← g.nodes[e.target]?).key, e.count⟩

/-- The edges in their order, by the keys of their ends. -/
def arcs (g : Graph) : List Arc := g.edges.filterMap g.arc?

def nodeCount (g : Graph) : Nat := g.nodes.length

def edgeCount (g : Graph) : Nat := g.edges.length

def fileCount (g : Graph) : Nat := (g.nodes.filter fun n => ! n.isExternal).length

def externalCount (g : Graph) : Nat := (g.nodes.filter Node.isExternal).length

end Graph

end ImportWeb
