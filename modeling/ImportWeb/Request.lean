import ImportWeb.Render
import ImportWeb.Settings
import ImportWeb.Summary

/-!
A request for the web of a project, which the settings of the project complete.
-/

namespace ImportWeb

structure Request where
  root : Path
  /-- Whether modules from outside become nodes, even if the settings do not ask for it. -/
  includeExternal : Bool
  /-- The languages to use in place of those that the settings name, if there are any. -/
  languages : List String
  deriving DecidableEq, Repr

/-- Why there is no web. -/
inductive RequestError where
  | style (error : StyleError)
  | survey (root : Path) (error : SurveyError)
  deriving DecidableEq, Repr

namespace Request

def settings (r : Request) (disk : Disk) : Settings := .load disk r.root

def registry (r : Request) (disk : Disk) : Except RequestError Registry :=
  ((r.settings disk).registry r.languages).mapError .style

def web (r : Request) (disk : Disk) : Except RequestError Web := do
  let settings := r.settings disk
  let registry ← r.registry disk
  (disk.web registry (settings.includesExternal r.includeExternal) settings.exclusions
    r.root).mapError (.survey r.root)

/-- The paths whose presence decides what is imported from inside the project. -/
def candidates (r : Request) (disk : Disk) : List Path :=
  match r.registry disk with
  | .error _ => []
  | .ok registry =>
    match disk.survey r.root registry.extensions (r.settings disk).exclusions with
    | .error _ => []
    | .ok survey => survey.files.flatMap (·.candidates registry)

/-- The rendered graph of a web that the request led to. -/
def render (r : Request) (disk : Disk) (format : Format) (w : Web) : String :=
  w.graph.listing.render (r.settings disk).physics format

def summary (r : Request) (w : Web) (nanoseconds : Nat) : Summary :=
  .ofWeb r.root.toString w nanoseconds

end Request

end ImportWeb
