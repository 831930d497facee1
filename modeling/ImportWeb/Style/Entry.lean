import ImportWeb.Style

/-!
Styles as a user writes them down: the language they belong to, and the pattern and layout of
a capture rule.
-/

namespace ImportWeb

structure StyleEntry where
  language : String
  /-- The name of the language, if there is none. -/
  name : Option String
  extensions : List String
  pattern : String
  separator : String
  relativeMarker : Option Char
  extension : String
  packageIndex : Option String
  deriving DecidableEq, Repr

namespace StyleEntry

def usualSeparator : String := "/"

def styleName (e : StyleEntry) : String := e.name.getD e.language

def layout (e : StyleEntry) : Layout :=
  ⟨e.separator, e.relativeMarker, String.ofList (e.extension.toList.dropWhile (· = '.')),
    e.packageIndex⟩

/-- The style of an entry, which needs a separator besides what every style needs. -/
def style (e : StyleEntry) : Except StyleError Style :=
  if e.separator = "" then .error (.emptySeparator e.styleName)
  else Style.make e.styleName e.extensions e.pattern (.capture e.layout)

/-- Appends a style to the language of its name, which is started if there is none. -/
def addTo (name : String) (style : Style) : List Language → List Language
  | [] => [⟨name, [style]⟩]
  | l :: rest =>
    if l.name = name then ⟨l.name, l.styles ++ [style]⟩ :: rest else l :: addTo name style rest

def languagesFrom (done : List Language) : List StyleEntry → Except StyleError (List Language)
  | [] => .ok done
  | e :: rest => do languagesFrom (addTo e.language (← e.style) done) rest

/-- The languages of a list of entries in the order of their first mention. The first entry
without a style decides the error. -/
def languages (entries : List StyleEntry) : Except StyleError (List Language) :=
  languagesFrom [] entries

end StyleEntry

end ImportWeb
