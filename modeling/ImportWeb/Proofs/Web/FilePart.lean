import ImportWeb.Proofs.Web.Edges

/-!
External modules change nothing else. A web that is spun without them has the tally of the one
that is spun with them, and its graph is what is left of that one's when every external module
is taken out together with its edges. An external module of a file's name leaves the file alone.
-/

namespace ImportWeb

def Key.isFile : Key → Bool
  | file _ => true
  | external _ => false

/-- Whether an edge joins two files. -/
def Arc.joinsFiles (x : Arc) : Bool := x.source.isFile && x.target.isFile

/-- Without external modules a link asks for its edge only if that joins files. -/
theorem Link.ends?_false (importer : String) (link : Link) :
    link.ends? false importer =
      (link.ends? true importer).filter fun p => p.1.isFile && p.2.isFile := by
  cases link <;> rfl

theorem Links.ends_false (links : Links) :
    links.ends false = (links.ends true).filter fun p => p.1.isFile && p.2.isFile := by
  rw [ends, ends, List.filter_filterMap]
  exact List.filterMap_congr fun l _ => l.2.ends?_false l.1

namespace Web

/-- `w'` is what is left of `w` without external modules. -/
structure IsFilePart (w' w : Web) : Prop where
  /-- Whatever is counted is counted alike, external imports included. -/
  tally : w'.tally = w.tally
  /-- The nodes are the files in their order, -/
  nodes : w'.graph.nodes = w.graph.nodes.filter fun n => ! n.isExternal
  /-- each of them in its place. -/
  places : ∀ key, w'.graph.indexOf? (.file key) = w.graph.indexOf? (.file key)
  /-- The edges are those that join files, with their counts and in their order, -/
  arcs : w'.graph.arcs = w.graph.arcs.filter Arc.joinsFiles
  /-- and there are no others. -/
  edgeCount : w'.graph.edgeCount = (w.graph.arcs.filter Arc.joinsFiles).length
  counts : ∀ a b, w'.graph.countOf (.file a) (.file b) = w.graph.countOf (.file a) (.file b)

variable (disk : Disk) (registry : Registry) (root : Path) (files : List Source)

theorem keys_ofFiles (includeExternal : Bool) :
    (ofFiles disk registry includeExternal root files).graph.keys =
      (scanned root files).graph.keys ++
        ((links disk registry root files).externals includeExternal).eraseDups.map
          Key.external := by
  rw [Graph.keys, nodes_ofFiles, List.map_append, List.map_map]
  rfl

/-- A file keeps the place that it had before any import was looked at. -/
theorem indexOf?_ofFiles (includeExternal : Bool) (key : String) :
    (ofFiles disk registry includeExternal root files).graph.indexOf? (.file key) =
      (scanned root files).graph.indexOf? (.file key) := by
  ext i
  rw [(inStep_ofFiles ..).index, (inStep_scanned ..).index, keys_ofFiles]
  rcases Nat.lt_or_ge i (scanned root files).graph.keys.length with hi | hi
  · rw [List.getElem?_append_left hi]
  · rw [List.getElem?_append_right hi, List.getElem?_eq_none hi]
    simp

/-- What is spun without external modules is the file part of what is spun with them. -/
theorem isFilePart_ofFiles :
    IsFilePart (ofFiles disk registry false root files)
      (ofFiles disk registry true root files) := by
  have harcs : (ofFiles disk registry false root files).graph.arcs =
      (ofFiles disk registry true root files).graph.arcs.filter Arc.joinsFiles := by
    rw [arcs_ofFiles, arcs_ofFiles, Links.ends_false, Graph.arcsOf_filter]
    rfl
  refine
    { tally := ?tally
      nodes := ?nodes
      places := ?places
      arcs := harcs
      edgeCount := ?edgeCount
      counts := ?counts }
  case tally => rw [ofFiles_eq, ofFiles_eq]
  case nodes =>
    rw [nodes_ofFiles, Links.externals_false, fileNodes_ofFiles]
    exact List.append_nil _
  case places =>
    intro key
    rw [indexOf?_ofFiles, indexOf?_ofFiles]
  case edgeCount =>
    rw [← harcs, Graph.length_arcs (inStep_ofFiles ..)]
    rfl
  case counts =>
    intro a b
    rw [countOf_ofFiles, countOf_ofFiles, Links.ends_false, List.count_filter]
    rfl

end Web

end ImportWeb
