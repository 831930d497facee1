import ImportWeb.Graph.Listing

/-!
Graphviz text. Nodes are numbered in the order of the listing, and an edge that counts more
than once carries its count as a label.
-/

namespace ImportWeb.Render.Dot

open Text

/-- A character inside a quoted label: quotes and backslashes get a backslash. -/
def escapeChar (c : Char) : List Char :=
  if c = '\\' then ['\\', '\\'] else if c = '"' then ['\\', '"'] else [c]

def escape (s : List Char) : List Char := s.flatMap escapeChar

/-- A tenth of a size, with two decimals. -/
def width (size : Nat) : List Char := decimal (size / 10) ++ '.' :: decimal (size % 10) ++ ['0']

def attributes (n : ListedNode) : List Char :=
  let label := "label=\"".toList ++ escape n.label.toList ++ ['"', ' ']
  if n.external then
    label ++ "shape=diamond fillcolor=\"#F9E79F\" width=".toList ++ width n.size
  else
    label ++ "fillcolor=\"#AED6F1\" width=".toList ++ width n.size ++ " tooltip=\"".toList ++
      decimal (n.lines.getD 0) ++ " lines\"".toList

def nodeLine (i : Nat) (n : ListedNode) : List Char :=
  "    n".toList ++ decimal i ++ " [".toList ++ attributes n ++ "];\n".toList

def edgeLine (e : Nat × Nat × Nat) : List Char :=
  "    n".toList ++ decimal e.1 ++ " -> n".toList ++ decimal e.2.1 ++
    (if e.2.2 > 1 then " [label=\"".toList ++ decimal e.2.2 ++ "\"]".toList else []) ++
    [';', '\n']

/-- The node lines of a list whose first node has number `i`. -/
def nodeLines (i : Nat) : List ListedNode → List Char
  | [] => []
  | n :: rest => nodeLine i n ++ nodeLines (i + 1) rest

def header : List Char :=
  "digraph codeweb \x7b\n    rankdir=LR;\n    node [style=filled fontname=monospace];\n".toList

def render (l : Listing) : List Char :=
  header ++ nodeLines 0 l.nodes ++ l.joined.flatMap edgeLine ++ ['\x7d', '\n']

end ImportWeb.Render.Dot
