import ImportWeb.Path
import ImportWeb.Text.Blank

/-!
How a module token becomes a path. A layout says what separates the segments of a token,
which leading marker climbs a directory, and what the file is called in the end. The
candidate path of a token is computed from the text alone, without looking at any file.
-/

namespace ImportWeb

structure Layout where
  separator : String
  relativeMarker : Option Char
  extension : String
  packageIndex : Option String
  deriving DecidableEq, Repr

namespace Layout

open Text

/-- Dotted modules; a token of dots alone means the package's own file. -/
def python : Layout := ⟨".", some '.', "py", some "__init__"⟩

/-- Slash-separated paths with their extension, next to the importing file. -/
def slashed : Layout := ⟨"/", none, "", none⟩

/-- The number of leading relative markers of a trimmed token. -/
def markers (layout : Layout) (token : List Char) : Nat :=
  match layout.relativeMarker with
  | some marker => (token.takeWhile (· = marker)).length
  | none => 0

/-- How many steps up from the importing file its imports start. -/
def levels (layout : Layout) (token : List Char) : Nat := max (layout.markers token) 1

/-- The segments after the markers. -/
def segments (layout : Layout) (token : List Char) : List (List Char) :=
  Text.segments layout.separator.toList (token.drop (layout.markers token))

/-- What is appended below the directory that the markers select. -/
def target? (layout : Layout) (token : List Char) : Option (List (List Char)) :=
  match layout.segments token with
  | [] => layout.packageIndex.map fun name => [name.toList]
  | segments => some segments

/-- The extension with its dot, or nothing. -/
def suffix (layout : Layout) : List Char :=
  if layout.extension.toList.isEmpty then [] else '.' :: layout.extension.toList

/-- The cleaned path that a token names when it is imported by `source`. -/
def candidate? (layout : Layout) (source : Path) (token : String) : Option Path := do
  let token := trim token.toList
  let directory ← source.ancestor? (layout.levels token)
  let target ← layout.target? token
  return ((target.foldl Path.push directory).append layout.suffix).clean

end Layout

end ImportWeb
