import ImportWeb.Proofs.Graph.Alike
import ImportWeb.Proofs.Web.Passes

/-!
The order of the files. All files have their nodes before the first import is looked at, so what
an import comes to does not depend on when its file has its turn, and neither the tally nor a
count depends on the order of the links. Webs of the same files in another order are alike.
-/

namespace ImportWeb

theorem Link.count_comm (t : Tally) (link other : Link) :
    other.count (link.count t) = link.count (other.count t) := by
  cases link <;> cases other <;> rfl

theorem Links.tally_perm {links links' : Links} (h : links'.Perm links) (t : Tally) :
    links'.tally t = links.tally t :=
  h.foldl_eq' (fun l _ l' _ t => l.2.count_comm t l'.2) t

namespace Web

variable {root : Path} {files files' : List Source}

/-- The first pass makes the same files of the same list in another order. -/
theorem sameFiles_scanned (h : files'.Perm files) :
    (scanned root files').graph.SameFiles (scanned root files).graph := by
  intro key
  rw [Bool.eq_iff_iff, (inStep_scanned ..).contains_iff, (inStep_scanned ..).contains_iff,
    mem_keys_scanned, mem_keys_scanned]
  simp only [h.mem_iff]

theorem linksOf_congr {g g' : Graph} (h : g'.SameFiles g) (disk : Disk) (registry : Registry)
    (root : Path) (f : Source) :
    linksOf disk registry root g' f = linksOf disk registry root g f := by
  unfold linksOf
  cases Key.ofPath? root f.path with
  | none => rfl
  | some importer => exact List.map_congr_left fun i _ => by rw [Link.ofImport_congr h]

theorem links_perm (h : files'.Perm files) (disk : Disk) (registry : Registry) :
    (links disk registry root files').Perm (links disk registry root files) := by
  unfold links
  rw [funext (linksOf_congr (sameFiles_scanned h) disk registry root)]
  exact h.flatMap_right _

/-- `w'` is `w` up to the order of its nodes and edges. -/
structure Reorders (w' w : Web) : Prop where
  nodes : w'.graph.nodes.Perm w.graph.nodes
  counts : ∀ a b, w'.graph.countOf a b = w.graph.countOf a b
  tally : w'.tally = w.tally
  /-- The order cannot be told from the nodes of a listing, -/
  listedNodes : w'.graph.listing.nodes = w.graph.listing.nodes
  /-- nor from its edges, unless several have the same identifiers at their ends. -/
  listedEdges : w'.graph.listing.edges.Perm w.graph.listing.edges
  sorted' : w'.graph.listing.edges.Pairwise fun a b => a.le b = true
  sorted : w.graph.listing.edges.Pairwise fun a b => a.le b = true

/-- Files of different keys make the same web in every order. -/
theorem reorders_ofFiles (disk : Disk) (registry : Registry) (includeExternal : Bool)
    (hkeys : (files.filterMap fun f => Key.ofPath? root f.path).Nodup) (h : files'.Perm files) :
    Reorders (ofFiles disk registry includeExternal root files')
      (ofFiles disk registry includeExternal root files) := by
  have hg' := inStep_ofFiles disk registry includeExternal root files'
  have hg := inStep_ofFiles disk registry includeExternal root files
  have hlinks : (links disk registry root files').Perm (links disk registry root files) :=
    links_perm h disk registry
  have hscanned : (scanned root files').graph.nodes.Perm (scanned root files).graph.nodes := by
    have hkeys' : (files'.filterMap fun f => Key.ofPath? root f.path).Nodup :=
      (h.filterMap _).nodup_iff.2 hkeys
    rw [nodes_scanned_of_nodup hkeys', nodes_scanned_of_nodup hkeys]
    exact h.filterMap _
  have halike : (ofFiles disk registry includeExternal root files').graph.Alike
      (ofFiles disk registry includeExternal root files).graph := by
    constructor
    case nodes =>
      rw [nodes_ofFiles, nodes_ofFiles]
      exact hscanned.append ((perm_eraseDups (hlinks.filterMap _)).map _)
    case counts =>
      intro a b
      rw [countOf_ofFiles, countOf_ofFiles]
      exact (hlinks.filterMap _).count_eq _
  refine
    { nodes := halike.nodes
      counts := halike.counts
      tally := ?tally
      listedNodes := halike.listing_nodes hg
      listedEdges := halike.listing_edges hg' hg
      sorted' := Graph.listing_edges_pairwise _
      sorted := Graph.listing_edges_pairwise _ }
  case tally =>
    rw [ofFiles_eq, ofFiles_eq]
    simp only [tally_scanned, hscanned.length_eq, Links.tally_perm hlinks,
      (h.map (hitCount registry root)).sum_nat]

/-- Two files that import each other, and modules from elsewhere. -/
def couple : List Source :=
  [.ofText (.ofString "/p/a.py") "import b, os", .ofText (.ofString "/p/b.py") "import re, a"]

def coupleDisk : Disk :=
  ⟨[(["p".toList], .directory), (["p".toList, "a.py".toList], .file .empty),
    (["p".toList, "b.py".toList], .file .empty)], []⟩

theorem reorders_couple :
    let root := Path.ofString "/p"
    let web := ofFiles coupleDisk .builtin true root
    (couple.filterMap fun f => Key.ofPath? root f.path).Nodup ∧ couple.reverse.Perm couple ∧
      Reorders (web couple.reverse) (web couple) ∧
      (web couple).graph.keys = [.file "a.py", .file "b.py", .external "os", .external "re"] ∧
      (web couple.reverse).graph.keys =
        [.file "b.py", .file "a.py", .external "re", .external "os"] := by
  intro root web
  have hkeys : (couple.filterMap fun f => Key.ofPath? root f.path).Nodup := by decide
  have hperm : couple.reverse.Perm couple := List.reverse_perm couple
  refine ⟨hkeys, hperm, reorders_ofFiles coupleDisk .builtin true hkeys hperm, ?_, ?_⟩
  · decide +kernel
  · decide +kernel

end Web

end ImportWeb
