import ImportWeb.Graph.Listing

/-!
A standalone page that draws the graph in a browser. The data stands in an inline script as
JSON, in which a slash after a less-than sign is escaped so that no label can close the script.
-/

namespace ImportWeb.Render

/-- The forces between the nodes of the drawing. -/
structure Physics where
  nodeDistance : Double
  centralGravity : Double
  springLength : Double
  springStrength : Double
  damping : Double
  deriving DecidableEq, Repr

def Physics.default : Physics :=
  ⟨.ofDecimal false 150 0, .ofDecimal false 2 (-1), .ofDecimal false 200 0,
    .ofDecimal false 5 (-2), .ofDecimal false 9 (-2)⟩

namespace Page

/-- Puts a backslash between a less-than sign and a slash. -/
def guard : List Char → List Char
  | '<' :: '/' :: rest => '<' :: '\\' :: '/' :: guard rest
  | c :: rest => c :: guard rest
  | [] => []

def title (n : ListedNode) : String :=
  match n.lines with
  | some lines => n.label ++ " (" ++ String.ofList (Text.decimal lines) ++ " lines)"
  | none => n.label ++ " (external)"

def nodeJson (n : ListedNode) : Json :=
  .object [("id", .string n.id), ("label", .string n.label), ("shape", .string n.shape.name),
    ("size", .integer n.size), ("title", .string (title n))]

def edgeJson (e : ListedEdge) : Json :=
  .object [("from", .string e.source), ("to", .string e.target), ("value", .integer e.count)]

def optionsJson (p : Physics) : Json :=
  .object [
    ("edges", .object [("arrows", .object [("to", .object [("enabled", .bool true)])])]),
    ("physics", .object [
      ("repulsion", .object [
        ("centralGravity", .real p.centralGravity),
        ("damping", .real p.damping),
        ("nodeDistance", .real p.nodeDistance),
        ("springConstant", .real p.springStrength),
        ("springLength", .real p.springLength)]),
      ("solver", .string "repulsion")])]

/-- JSON as it stands in a script. -/
def scriptText (j : Json) : List Char := guard j.compact

/-- The page up to its inline script. -/
def head : List Char :=
  ("<!DOCTYPE html>\n<html>\n<head>\n<meta charset=\"utf-8\">\n<title>codeweb</title>\n" ++
    "<script src=\"https://unpkg.com/vis-network@9.1.9/standalone/umd/vis-network.min.js\">" ++
    "</script>\n<style>\n" ++
    "  html, body \x7b margin: 0; height: 100%; \x7d\n" ++
    "  #web \x7b width: 100%; height: 100%; border: 0; \x7d\n" ++
    "</style>\n</head>\n<body>\n<div id=\"web\"></div>\n").toList ++ "<script>".toList

/-- The script's last line. -/
def drawing : List Char :=
  ("  new vis.Network(document.getElementById(\"web\"), " ++
    "\x7b nodes: nodes, edges: edges \x7d, options);").toList

/-- The page after its inline script. -/
def foot : List Char := "</script>".toList ++ "\n</body>\n</html>\n".toList

def nodesOpen : List Char := "\n  var nodes = new vis.DataSet(".toList

def edgesOpen : List Char := ");\n  var edges = new vis.DataSet(".toList

def optionsOpen : List Char := ");\n  var options = ".toList

/-- The text of the inline script. -/
def script (l : Listing) (p : Physics) : List Char :=
  nodesOpen ++ scriptText (.array (l.nodes.map nodeJson)) ++
    edgesOpen ++ scriptText (.array (l.edges.map edgeJson)) ++
    optionsOpen ++ scriptText (optionsJson p) ++ ";\n".toList ++ drawing ++ ['\n']

def render (l : Listing) (p : Physics) : List Char := head ++ script l p ++ foot

end Page

end ImportWeb.Render
