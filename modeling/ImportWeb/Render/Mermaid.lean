import ImportWeb.Graph.Listing

/-!
Mermaid flowcharts: one line for each node and each edge. Characters that would end a label
are written as entities.
-/

namespace ImportWeb.Render.Mermaid

open Text

def escapeChar (c : Char) : List Char :=
  if c = '"' then "&quot;".toList
  else if c = '<' then "&lt;".toList
  else if c = '>' then "&gt;".toList
  else if c = '\x7b' then "&#123;".toList
  else if c = '\x7d' then "&#125;".toList
  else [c]

def escape (s : List Char) : List Char := s.flatMap escapeChar

/-- Files are boxes and external modules are rhombi. -/
def nodeLine (i : Nat) (n : ListedNode) : List Char :=
  let label := '"' :: escape n.label.toList ++ ['"']
  "    n".toList ++ decimal i ++
    (if n.external then '\x7b' :: label ++ ['\x7d'] else '[' :: label ++ [']']) ++ ['\n']

def edgeLine (e : Nat × Nat × Nat) : List Char :=
  "    n".toList ++ decimal e.1 ++
    (if e.2.2 > 1 then " -->|".toList ++ decimal e.2.2 ++ "| n".toList else " --> n".toList) ++
    decimal e.2.1 ++ ['\n']

/-- The node lines of a list whose first node has number `i`. -/
def nodeLines (i : Nat) : List ListedNode → List Char
  | [] => []
  | n :: rest => nodeLine i n ++ nodeLines (i + 1) rest

def render (l : Listing) : List Char :=
  "flowchart LR\n".toList ++ nodeLines 0 l.nodes ++ l.joined.flatMap edgeLine

end ImportWeb.Render.Mermaid
