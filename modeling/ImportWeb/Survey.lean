import ImportWeb.Disk
import ImportWeb.Glob
import ImportWeb.Ignore
import ImportWeb.Source
import ImportWeb.Text.Blank

/-!
The source files of a project: the files below its root that no ignore file and no exclude
pattern leaves out and whose extension is wanted, in the order of their paths. A directory
that is left out takes everything below it along.
-/

namespace ImportWeb

inductive SurveyError where
  | missingRoot (root : Path)
  | notADirectory (root : Path)
  deriving DecidableEq, Repr

def SurveyError.message : SurveyError → String
  | missingRoot root => "scan root " ++ root.toString ++ " does not exist"
  | notADirectory root => "scan root " ++ root.toString ++ " is not a directory"

structure Survey where
  /-- Without links, and above every file. -/
  root : Path
  files : List Source
  /-- Wanted files that are not text. -/
  skipped : List Path
  deriving DecidableEq, Repr

namespace Survey

/-- The rules of the ignore files of one name, each with its directory. -/
abbrev RuleTable := List (Location × List Ignore.Rule)

/-- The names of ignore files below their directory. An earlier one outweighs a later one at
any depth. -/
def ignoreNames : List Location :=
  [[".ignore".toList], [".gitignore".toList], [".git".toList, "info".toList, "exclude".toList]]

/-- The places of ignore files in the directories above a root. -/
def ignoreFilesAbove (root : Location) : List Location :=
  (List.range root.length).flatMap fun n => ignoreNames.map (root.take n ++ ·)

/-- The directories whose ignore files count: those above the root and all those below it. -/
def directories (disk : Disk) (root : Location) : List Location :=
  (List.range (root.length + 1)).map root.take ++
    disk.entries.filterMap fun
      | (l, .directory) => if root.isPrefixOf l && root.length < l.length then some l else none
      | _ => none

def ruleTable (disk : Disk) (dirs : List Location) (name : Location) : RuleTable :=
  dirs.filterMap fun dir =>
    (disk.bytes? (dir ++ name).toPath).map fun content => (dir, Ignore.rulesOf content)

def ruleTables (disk : Disk) (root : Location) : List RuleTable :=
  ignoreNames.map (ruleTable disk (directories disk root))

/-- What the table's file in the directory of the first `depth` names says of a location. -/
def verdictAt? (table : RuleTable) (l : Location) (isDirectory : Bool) (depth : Nat) :
    Option Bool := do
  let (_, rules) ← table.find? fun e => e.1 = l.take depth
  Ignore.verdict? rules (Text.utf8 (Text.joinWith ['/'] (l.drop depth))) isDirectory

/-- What a table says of a location: the nearest file that says something decides. -/
def tableVerdict? (table : RuleTable) (l : Location) (isDirectory : Bool) : Option Bool :=
  (List.range l.length).reverse.findSome? (verdictAt? table l isDirectory)

def isIgnored (tables : List RuleTable) (l : Location) (isDirectory : Bool) : Bool :=
  (tables.findSome? fun table => tableVerdict? table l isDirectory).getD false

/-- Whether neither a file nor any directory above it, below the root, is ignored. -/
def isVisible (tables : List RuleTable) (root l : Location) : Bool :=
  (List.range (l.length - root.length)).all fun n =>
    let depth := root.length + n + 1
    ! isIgnored tables (l.take depth) (depth < l.length)

/-- The files that are walked, with their contents. -/
def walk (disk : Disk) (root : Location) : List (Location × ByteArray) :=
  let tables := ruleTables disk root
  disk.entries.filterMap fun
    | (l, .file content) =>
      if root.isPrefixOf l && root.length < l.length && isVisible tables root l then
        some (l, content)
      else none
    | _ => none

/-- Whether an exclude pattern matches the path below the root or one of its names. -/
def isLeftOut (globs : List Glob) (below : Location) : Bool :=
  let path := (Text.joinWith ['/'] below).map fun c => if c = '\\' then '/' else c
  globs.any fun g => g.isMatch path || below.any g.isMatch

def extensionOf (l : Location) : List Char :=
  ((l.getLast?.map Path.cutExtension).bind (·.2)).getD []

/-- Whether a walked file is a source file. -/
def isWanted (extensions : List String) (globs : List Glob) (root l : Location) : Bool :=
  extensions.contains (String.ofList (extensionOf l)) && ! isLeftOut globs (l.drop root.length)

/-- The source files with their contents in the order of their paths. -/
def wanted (disk : Disk) (root : Location) (extensions exclude : List String) :
    List (Location × ByteArray) :=
  let globs := exclude.filterMap fun s => Glob.ofText? s.toList
  ((walk disk root).filter fun f => isWanted extensions globs root f.1).mergeSort
    fun a b => ! decide (b.1 < a.1)

end Survey

/-- Loads the source files below a root. -/
def Disk.survey (disk : Disk) (root : Path) (extensions exclude : List String) :
    Except SurveyError Survey :=
  match disk.locate root with
  | .error _ => .error (.missingRoot root)
  | .ok l =>
    match disk.find? l with
    | some .directory =>
      let found := Survey.wanted disk l extensions exclude
      .ok ⟨l.toPath,
        found.filterMap fun (l, content) =>
          (String.fromUTF8? content).map (Source.ofText l.toPath),
        found.filterMap fun (l, content) =>
          if (String.fromUTF8? content).isNone then some l.toPath else none⟩
    | _ => .error (.notADirectory root)

end ImportWeb
