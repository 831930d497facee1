import ImportWeb.Disk
import ImportWeb.Render.Page
import ImportWeb.Style.Registry
import ImportWeb.Style.Entry
import ImportWeb.Toml.Parser

/-!
The settings of a project, from the file `codeweb.toml` in its root. A file that is missing,
unreadable or wrong in any part counts for nothing. Keys without a meaning are passed over.
-/

namespace ImportWeb

/-- What a project says about the drawing's forces. -/
structure PhysicsOverrides where
  nodeDistance : Option Double
  centralGravity : Option Double
  springLength : Option Double
  springStrength : Option Double
  damping : Option Double
  deriving DecidableEq, Repr

structure Settings where
  exclude : Option (List String)
  includeExternal : Option Bool
  languages : Option (List String)
  html : PhysicsOverrides
  styles : List StyleEntry
  deriving DecidableEq, Repr

/-! ### Decoding -/

namespace Toml.Value

def string? : Value → Option String
  | string s => some s
  | _ => none

def boolean? : Value → Option Bool
  | boolean b => some b
  | _ => none

/-- A number; integers count as numbers too. -/
def number? : Value → Option Double
  | integer n => some (.ofInt n)
  | float x => some x
  | _ => none

/-- A string of one character. -/
def character? : Value → Option Char
  | string s =>
    match s.toList with
    | [c] => some c
    | _ => none
  | _ => none

def array? : Value → Option (List Value)
  | array items => some items
  | _ => none

def strings? (v : Value) : Option (List String) := do (← v.array?).mapM string?

/-- The values of a record's fields, absent ones included. A table has them by name, an array
one after the other; a date has none of the names. -/
def record? (names : List String) : Value → Option (List (Option Value))
  | table fields => some (names.map fun name => (fields.find? fun f => f.1 = name).map (·.2))
  | array items =>
    if names.length ≤ items.length then some ((items.take names.length).map some) else none
  | datetime => some (names.map fun _ => none)
  | _ => none

/-- A field that may be absent. -/
def optional (read : Value → Option α) : Option Value → Option (Option α)
  | none => some none
  | some v => (read v).map some

end Toml.Value

namespace PhysicsOverrides

def none : PhysicsOverrides := ⟨.none, .none, .none, .none, .none⟩

open Toml.Value in
def ofToml? (v : Toml.Value) : Option PhysicsOverrides := do
  match ← v.record? ["node_distance", "central_gravity", "spring_length", "spring_strength",
    "damping"] with
  | [distance, gravity, length, strength, damping] =>
    return ⟨← optional number? distance, ← optional number? gravity, ← optional number? length,
      ← optional number? strength, ← optional number? damping⟩
  | _ => .none

/-- The defaults with what the project says instead. -/
def apply (o : PhysicsOverrides) : Render.Physics :=
  let d := Render.Physics.default
  ⟨o.nodeDistance.getD d.nodeDistance, o.centralGravity.getD d.centralGravity,
    o.springLength.getD d.springLength, o.springStrength.getD d.springStrength,
    o.damping.getD d.damping⟩

end PhysicsOverrides

open Toml.Value in
def StyleEntry.ofToml? (v : Toml.Value) : Option StyleEntry := do
  match ← v.record? ["set", "name", "extensions", "pattern", "separator", "relative_marker",
    "extension", "package_index"] with
  | [some language, name, some extensions, some pattern, separator, marker, extension, index] =>
    return ⟨← language.string?, ← optional string? name, ← extensions.strings?, ← pattern.string?,
      (← optional string? separator).getD usualSeparator, ← optional character? marker,
      (← optional string? extension).getD "", ← optional string? index⟩
  | _ => none

namespace Settings

def fileName : String := "codeweb.toml"

def default : Settings := ⟨none, none, none, .none, []⟩

open Toml.Value in
def ofToml? (v : Toml.Value) : Option Settings := do
  match ← v.record? ["exclude", "include_external", "languages", "html", "styles"] with
  | [exclude, includeExternal, languages, html, styles] =>
    let html ← optional PhysicsOverrides.ofToml? html
    let styles ← optional (fun v => do (← v.array?).mapM StyleEntry.ofToml?) styles
    return ⟨← optional strings? exclude, ← optional boolean? includeExternal,
      ← optional strings? languages, html.getD .none, styles.getD []⟩
  | _ => none

def ofText? (s : String) : Option Settings := (Toml.parse? s.toList).bind ofToml?

/-- The settings of the project in a directory. -/
def load (disk : Disk) (root : Path) : Settings :=
  ((disk.text? (root.push fileName.toList)).bind ofText?).getD default

/-! ### What the settings come to -/

/-- The built-in languages and those of the project, narrowed to the ones asked for, or else to
those that the project asks for. -/
def registry (s : Settings) (asked : List String) : Except StyleError Registry := do
  let languages ← StyleEntry.languages s.styles
  let registry := languages.foldl Registry.register .builtin
  let selection := if asked.isEmpty then s.languages.getD [] else asked
  if selection.isEmpty then return registry else registry.select selection

def includesExternal (s : Settings) (asked : Bool) : Bool := asked || s.includeExternal.getD false

def exclusions (s : Settings) : List String := s.exclude.getD []

def physics (s : Settings) : Render.Physics := s.html.apply

end Settings

end ImportWeb
