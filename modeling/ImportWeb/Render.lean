import ImportWeb.Render.Dot
import ImportWeb.Render.Mermaid
import ImportWeb.Render.Page

/-!
The output formats of a graph.
-/

namespace ImportWeb

inductive Format where
  | html
  | dot
  | mermaid
  | json
  deriving DecidableEq, Repr, Inhabited

namespace Format

def all : List Format := [html, dot, mermaid, json]

def name : Format → String
  | html => "html"
  | dot => "dot"
  | mermaid => "mermaid"
  | json => "json"

/-- The extension of the file that a rendered graph is written to. -/
def fileSuffix : Format → String
  | html => "html"
  | dot => "dot"
  | mermaid => "mmd"
  | json => "json"

/-- The format of a name, written exactly so or in any ASCII case. -/
def ofName? (ignoreCase : Bool) (text : String) : Option Format :=
  all.find? fun f => f.name = if ignoreCase then text.map Char.toLower else text

end Format

namespace Listing

open Render

def render (l : Listing) (p : Physics) : Format → String
  | .html => String.ofList (Page.render l p)
  | .dot => String.ofList (Dot.render l)
  | .mermaid => String.ofList (Mermaid.render l)
  | .json => l.toJson.prettyText

end Listing

end ImportWeb
