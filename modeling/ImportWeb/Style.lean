import ImportWeb.Import
import ImportWeb.Pattern
import ImportWeb.Style.Python

/-!
Import styles. A style says which lines of which files import something and how their module
tokens are found. A line must match the style's pattern from its start.
-/

namespace ImportWeb

/-- How the tokens of a matching line are found. -/
inductive Rule where
  | pythonImport
  | pythonFromImport
  /-- The text of the pattern's group named `module`. -/
  | capture (layout : Layout)
  deriving DecidableEq, Repr

inductive StyleError where
  | noExtensions (style : String)
  | invalidPattern (style : String)
  | missingModuleGroup (style : String)
  | emptySeparator (style : String)
  | unknownLanguage (name : String) (available : List String)
  deriving DecidableEq, Repr

structure Style where
  name : String
  /-- Without leading dots, in order and without repetition. -/
  extensions : List String
  /-- The pattern as it was given. -/
  source : String
  pattern : Pattern
  rule : Rule
  deriving Repr

/-- A named group of styles, such as those of one language. -/
structure Language where
  name : String
  styles : List Style
  deriving Repr

/-- Puts a string into an ordered list without repetition. -/
def insertSorted (s : String) : List String → List String
  | [] => [s]
  | t :: rest =>
    if s = t then t :: rest else if s < t then s :: t :: rest else t :: insertSorted s rest

def sortedSet (strings : List String) : List String := strings.foldr insertSorted []

namespace Style

/-- The group whose text is the module token. -/
def moduleGroup : String := "module"

/-- An extension without blanks around it and without leading dots. -/
def normalizeExtension (s : String) : String :=
  String.ofList ((Text.trim s.toList).dropWhile (· = '.'))

/-- A pattern held to the start of the line. -/
def anchored (pattern : String) : List Char :=
  "^(?:".toList ++ pattern.toList ++ [')']

/-- A style, if it applies to some extension, its pattern is a regular expression, and that has
the group that its rule needs. -/
def make (name : String) (extensions : List String) (pattern : String) (rule : Rule) :
    Except StyleError Style :=
  match sortedSet ((extensions.map normalizeExtension).filter (· ≠ "")) with
  | [] => .error (.noExtensions name)
  | extensions =>
    match Pattern.compile? moduleGroup (anchored pattern), rule with
    | none, _ => .error (.invalidPattern name)
    | some compiled, .capture _ =>
      if compiled.hasGroup then .ok ⟨name, extensions, pattern, compiled, rule⟩
      else .error (.missingModuleGroup name)
    | some compiled, _ => .ok ⟨name, extensions, pattern, compiled, rule⟩

def covers (s : Style) (extension : String) : Bool := s.extensions.contains extension

def isMatch (s : Style) (line : String) : Bool := s.pattern.isMatch line.toList

def layout (s : Style) : Layout :=
  match s.rule with
  | .capture layout => layout
  | _ => .python

/-- The captured text without blanks around it, if anything is left of it. -/
def captureTokens (p : Pattern) (line : List Char) : List (List Char) :=
  ((p.captured? line).map Text.trim).toList.filter (! ·.isEmpty)

/-- The module tokens of a line. -/
def tokens (s : Style) (line : String) : List String :=
  (match s.rule with
    | .pythonImport => Python.importTokens line.toList
    | .pythonFromImport => Python.fromTokens line.toList
    | .capture _ => captureTokens s.pattern line.toList).map String.ofList

/-- What a line of a source file imports. -/
def importsOn (s : Style) (disk : Disk) (source : Path) (line : String) : List Import :=
  (s.tokens line).map (s.layout.resolve disk source)

end Style

/-- What tells the imports that a style finds on a line of the file at a path. -/
structure Finder (P : Type := Path) where
  importsOn : Style → P → String → List (Import P)

/-- Finds the files that are on disk. -/
def Disk.finder (disk : Disk) : Finder :=
  ⟨fun style source line => style.importsOn disk source line⟩

instance : Coe Disk Finder := ⟨Disk.finder⟩

end ImportWeb
