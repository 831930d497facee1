import ImportWeb.Style

/-!
The registry of languages. It starts with Python and C; a language of a name that is taken
replaces the one before it, in its place. A selection narrows it to the languages named.
-/

namespace ImportWeb

structure Registry where
  languages : List Language
  deriving Repr

def Language.python : Language :=
  ⟨"python", [
    Style.make "python-import" ["py"] "import .+" .pythonImport,
    Style.make "python-from-import" ["py"] "from .+ import .+" .pythonFromImport
  ].filterMap Except.toOption⟩

def Language.c : Language :=
  ⟨"c", [
    Style.make "c-include" ["c", "h", "cc", "cpp", "hpp"]
      "\\s*#\\s*include\\s+\"(?P<module>[^\"]+)\"" (.capture .slashed)
  ].filterMap Except.toOption⟩

/-- Whether two names differ at most in the case of ASCII letters. -/
def sameName (a b : String) : Bool := a.toList.map Char.toLower == b.toList.map Char.toLower

namespace Registry

def builtin : Registry := ⟨[Language.python, Language.c]⟩

def names (r : Registry) : List String := r.languages.map Language.name

/-- Replaces the first language of the same name, or appends the language. -/
def replaceOrAppend (l : Language) : List Language → List Language
  | [] => [l]
  | k :: rest => if k.name = l.name then l :: rest else k :: replaceOrAppend l rest

def register (r : Registry) (l : Language) : Registry := ⟨replaceOrAppend l r.languages⟩

/-- The first language of a name, in any ASCII case. -/
def find? (r : Registry) (name : String) : Option Language :=
  r.languages.find? (sameName ·.name name)

/-- The languages of the given names after those `chosen`, each one once. -/
def selectFrom (r : Registry) (chosen : List Language) : List String → Except StyleError Registry
  | [] => .ok ⟨chosen⟩
  | name :: rest =>
    let name := Text.trimmed name
    match r.find? name with
    | none => .error (.unknownLanguage name r.names)
    | some l =>
      if chosen.any (·.name = l.name) then selectFrom r chosen rest
      else selectFrom r (chosen ++ [l]) rest

/-- The languages of the given names in the order of their first mention. -/
def select (r : Registry) (names : List String) : Except StyleError Registry :=
  r.selectFrom [] names

def styles (r : Registry) : List Style := r.languages.flatMap Language.styles

/-- All extensions that some style applies to. -/
def extensions (r : Registry) : List String := sortedSet (r.styles.flatMap Style.extensions)

def applicable (r : Registry) (extension : String) : List Style :=
  r.styles.filter (·.covers extension)

end Registry

def StyleError.message : StyleError → String
  | noExtensions style => "style `" ++ style ++ "` applies to no file extensions"
  | invalidPattern style => "style `" ++ style ++ "` has an invalid pattern"
  | missingModuleGroup style =>
    "style `" ++ style ++ "` pattern must contain a named `module` capture group"
  | emptySeparator style => "style `" ++ style ++ "` has an empty module separator"
  | unknownLanguage name available =>
    "unknown import rule-set `" ++ name ++ "` (available: " ++ ", ".intercalate available ++ ")"

end ImportWeb
