import ImportWeb.Graph
import ImportWeb.Survey
import ImportWeb.Style.Registry

/-!
The web of a project: the graph of its source files with a tally of the imports behind it. All
files become nodes before the first import is looked at, so an import may point forward as
well as back.
-/

namespace ImportWeb

structure Tally where
  /-- Files that became nodes. -/
  files : Nat
  /-- Files that are not text. -/
  skipped : Nat
  /-- Pairs of a line and a style that matches it. -/
  importLines : Nat
  internalImports : Nat
  externalImports : Nat
  /-- Imports of a file by itself. -/
  selfImports : Nat
  /-- Imports of files that are on disk and not in the graph. -/
  outsideTargets : Nat
  deriving DecidableEq, Repr, Inhabited

def Tally.zero : Tally := ⟨0, 0, 0, 0, 0, 0, 0⟩

structure Web where
  graph : Graph
  tally : Tally
  deriving DecidableEq, Repr, Inhabited

variable {P : Type}

/-! ### The imports of a file -/

namespace Source

/-- Each line with each of the styles that match it, in order. -/
def hits (registry : Registry) (f : Source P) : List (String × Style) :=
  f.lines.flatMap fun line =>
    ((registry.applicable f.extension).filter (·.isMatch line)).map fun style => (line, style)

/-- The imports that a style finds on a line of the file. -/
def importsOf (finder : Finder P) (f : Source P) (hit : String × Style) : List (Import P) :=
  finder.importsOn hit.2 f.path hit.1

/-- The paths whose presence on disk decides what the imports of the file are. -/
def candidates (registry : Registry) (f : Source) : List Path :=
  (f.hits registry).flatMap fun (line, style) =>
    (style.tokens line).filterMap (style.layout.candidate? f.path)

/-- Everything the file imports, with repetitions. -/
def imports (finder : Finder P) (registry : Registry) (f : Source P) : List (Import P) :=
  (f.hits registry).flatMap (f.importsOf finder)

end Source

variable [FilePath P]

/-! ### One import -/

/-- What an import of a file comes to. -/
inductive Link where
  /-- From another file in the graph. -/
  | file (key : String)
  | external (specifier : String)
  | self
  /-- From a file that is not in the graph. -/
  | outside
  deriving DecidableEq, Repr

namespace Link

/-- An import by the file of the key `importer`, given the files in the graph. -/
def ofImport (g : Graph) (root : P) (importer : String) : Import P → Link
  | .external specifier => external specifier
  | .file path =>
    match Key.ofPath? root path with
    | none => outside
    | some key =>
      if g.contains (.file key) then if key = importer then self else file key else outside

/-- Draws an import. One that comes from outside is drawn only if that is asked for. -/
def draw (includeExternal : Bool) (importer : String) (g : Graph) : Link → Graph
  | file key => (g.addEdge (.file key) (.file importer)).1
  | external specifier =>
    if includeExternal then
      ((g.addNode (.external specifier)).addEdge (.external specifier) (.file importer)).1
    else g
  | self => g
  | outside => g

def count (t : Tally) : Link → Tally
  | file _ => { t with internalImports := t.internalImports + 1 }
  | external _ => { t with externalImports := t.externalImports + 1 }
  | self =>
    { t with internalImports := t.internalImports + 1, selfImports := t.selfImports + 1 }
  | outside =>
    { t with
      internalImports := t.internalImports + 1, outsideTargets := t.outsideTargets + 1 }

end Link

/-! ### All files -/

namespace Web

def empty : Web := ⟨.empty, .zero⟩

/-- Adds the node of a file, unless it lies outside the root or is there. -/
def withFile (root : P) (w : Web) (f : Source P) : Web :=
  match Key.ofPath? root f.path with
  | none => w
  | some key =>
    if w.graph.contains (.file key) then w
    else
      ⟨w.graph.addNode (.file ⟨key, FilePath.raw f.path, f.lineCount⟩),
        { w.tally with files := w.tally.files + 1 }⟩

def withImport (root : P) (includeExternal : Bool) (importer : String) (w : Web)
    (i : Import P) : Web :=
  let link := Link.ofImport w.graph root importer i
  ⟨link.draw includeExternal importer w.graph, link.count w.tally⟩

/-- Adds the imports of a file of the root. -/
def withImportsOf (finder : Finder P) (registry : Registry) (includeExternal : Bool) (root : P)
    (w : Web) (f : Source P) : Web :=
  match Key.ofPath? root f.path with
  | none => w
  | some importer =>
    let hits := f.hits registry
    let w := { w with tally.importLines := w.tally.importLines + hits.length }
    (hits.flatMap (f.importsOf finder)).foldl (withImport root includeExternal importer) w

/-- The web of the given files, which is spun in two passes. -/
def ofFiles (finder : Finder P) (registry : Registry) (includeExternal : Bool) (root : P)
    (files : List (Source P)) : Web :=
  files.foldl (withImportsOf finder registry includeExternal root)
    (files.foldl (withFile root) empty)

end Web

/-- The web of the source files that a survey of the root finds. -/
def Disk.web (disk : Disk) (registry : Registry) (includeExternal : Bool)
    (exclude : List String) (root : Path) : Except SurveyError Web := do
  let survey ← disk.survey root registry.extensions exclude
  let w := Web.ofFiles disk registry includeExternal survey.root survey.files
  return { w with tally.skipped := survey.skipped.length }

end ImportWeb
