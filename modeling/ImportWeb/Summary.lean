import ImportWeb.Double
import ImportWeb.Json
import ImportWeb.Web

/-!
The summary of a run: what the graph holds and what the tally counted, as a JSON object or as
indented text.
-/

namespace ImportWeb

structure Summary where
  /-- The root as it was given. -/
  root : String
  fileNodes : Nat
  externalNodes : Nat
  edges : Nat
  tally : Tally
  /-- The time the run took. -/
  nanoseconds : Nat
  deriving DecidableEq, Repr

namespace Summary

def ofWeb (root : String) (w : Web) (nanoseconds : Nat) : Summary :=
  ⟨root, w.graph.fileCount, w.graph.externalCount, w.graph.edgeCount, w.tally, nanoseconds⟩

/-- The counts by their names, in the order in which they are written. -/
def counts (s : Summary) : List (String × Nat) :=
  [("file_nodes", s.fileNodes), ("external_nodes", s.externalNodes), ("edges", s.edges),
    ("files", s.tally.files), ("skipped", s.tally.skipped),
    ("import_lines", s.tally.importLines), ("internal_imports", s.tally.internalImports),
    ("external_imports", s.tally.externalImports), ("self_imports", s.tally.selfImports),
    ("unscanned_targets", s.tally.outsideTargets)]

/-- The fields that two runs on the same files share. -/
def lastingFields (s : Summary) : List (String × Json) :=
  ("root", .string s.root) :: s.counts.map fun (name, n) => (name, .integer n)

def toJson (s : Summary) : Json :=
  .object (s.lastingFields ++
    [("elapsed_secs", .real (.ofRatio false s.nanoseconds (Nat.pow 10 9)))])

def jsonText (s : Summary) : String := s.toJson.prettyText ++ "\n"

/-- A time in seconds, to two places. -/
def seconds (nanoseconds : Nat) : String :=
  let hundredths := Double.roundDiv nanoseconds (Nat.pow 10 7)
  toString (hundredths / 100) ++ "." ++ toString (hundredths / 10 % 10) ++
    toString (hundredths % 10)

/-- The lines of the text; imports that were left out have one only if there are any. -/
def textLines (s : Summary) : List String :=
  let t := s.tally
  [ s!"Scanned {t.files} files in {seconds s.nanoseconds}s ({s.root})",
    s!"  {s.fileNodes} file nodes, {s.externalNodes} external nodes, {s.edges} edges",
    s!"  {t.importLines} import lines: {t.internalImports} internal, {t.externalImports} external imports" ] ++
    if t.selfImports > 0 ∨ t.outsideTargets > 0 then
      [s!"  {t.selfImports} self imports ignored, {t.outsideTargets} targets outside the scan"]
    else []

def text (s : Summary) : String := Text.unlines s.textLines

/-- What there is to say about files that could not be read. -/
def warning? (s : Summary) : Option String :=
  if s.tally.skipped > 0 then some s!"  {s.tally.skipped} files skipped (unreadable)" else none

end Summary

end ImportWeb
