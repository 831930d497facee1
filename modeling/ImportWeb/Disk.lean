import ImportWeb.Path

/-!
What is on disk, as a value: files with their bytes, directories, and links that are followed
when a path leads through them. Every entry stands under the names that lead to it from the
root, and a relative path starts at the working directory.
-/

namespace ImportWeb

/-- The names that lead to an entry from the root. -/
abbrev Location := List (List Char)

inductive Entry where
  | file (content : ByteArray)
  | directory
  | link (target : Path)

structure Disk where
  entries : List (Location × Entry)
  workingDirectory : Location

/-- Why a path leads nowhere. -/
inductive DiskError where
  | notFound
  | notADirectory
  | isADirectory
  | tooManyLinks
  | nameTooLong
  deriving DecidableEq, Repr

def DiskError.message : DiskError → String
  | notFound => "No such file or directory (os error 2)"
  | notADirectory => "Not a directory (os error 20)"
  | isADirectory => "Is a directory (os error 21)"
  | tooManyLinks => "Too many levels of symbolic links (os error 40)"
  | nameTooLong => "File name too long (os error 36)"

namespace Location

def toPath (l : Location) : Path := ⟨'/' :: Text.joinWith ['/'] l⟩

/-- The names of a path from the root. -/
def ofPath (p : Path) : Location := p.components.filterMap Component.name?

end Location

namespace Disk

def empty (workingDirectory : Location) : Disk := ⟨[], workingDirectory⟩

/-- The entry at a location; the root is always a directory. -/
def find? (d : Disk) (l : Location) : Option Entry :=
  if l.isEmpty then some .directory else (d.entries.find? fun e => e.1 = l).map (·.2)

/-- How many links are followed on the way along one path. -/
def maxLinks : Nat := 40

/-- The longest name of an entry, in bytes. -/
def maxName : Nat := 255

/-- The longest path, in bytes. -/
def maxPath : Nat := 4095

/-- The steps of the way along a path. An empty piece or a dot stays in place, which at the end
takes a directory. -/
def steps (p : Path) : List Component :=
  p.anchor.component?.toList ++ p.pieces.map fun piece => (Path.component? '.' piece).getD .here

/-- Takes steps from a directory. What a link leads to is walked by `follow`, along the steps of
its target and the rest of the way. -/
def walk (d : Disk) (follow : Location → List Component → Except DiskError Location)
    (here : Location) : List Component → Except DiskError Location
  | [] => .ok here
  | .root :: rest => walk d follow [] rest
  | .here :: rest => walk d follow here rest
  | .up :: rest => walk d follow here.dropLast rest
  | .name n :: rest =>
    if maxName < (String.ofList n).utf8ByteSize then .error .nameTooLong
    else
      match d.find? (here ++ [n]) with
      | none => .error .notFound
      | some .directory => walk d follow (here ++ [n]) rest
      | some (.file _) => if rest.isEmpty then .ok (here ++ [n]) else .error .notADirectory
      | some (.link target) => follow here (steps target ++ rest)

/-- `walk` through at most `links` links. -/
def walkLinks (d : Disk) : Nat → Location → List Component → Except DiskError Location
  | 0 => walk d fun _ _ => .error .tooManyLinks
  | links + 1 => walk d (walkLinks d links)

/-- The location that a path leads to through all links. -/
def locate (d : Disk) (p : Path) : Except DiskError Location :=
  if p.chars.isEmpty then .error .notFound
  else if maxPath < p.toString.utf8ByteSize then .error .nameTooLong
  else walkLinks d maxLinks d.workingDirectory (steps p)

/-- The entry that a path leads to, which is no link. -/
def lookUp? (d : Disk) (p : Path) : Option Entry :=
  match d.locate p with
  | .ok l => d.find? l
  | .error _ => none

def isFile (d : Disk) (p : Path) : Bool :=
  match d.lookUp? p with
  | some (.file _) => true
  | _ => false

def bytes? (d : Disk) (p : Path) : Option ByteArray :=
  match d.lookUp? p with
  | some (.file content) => some content
  | _ => none

/-- The text of a file, if its bytes are text. -/
def text? (d : Disk) (p : Path) : Option String := (d.bytes? p).bind String.fromUTF8?

/-! ### Writing -/

/-- Puts an entry at a location, in place of what was there. -/
def put (d : Disk) (l : Location) (e : Entry) : Disk :=
  let rec set : List (Location × Entry) → List (Location × Entry)
    | [] => [(l, e)]
    | old :: rest => if old.1 = l then (l, e) :: rest else old :: set rest
  { d with entries := set d.entries }

/-- Whether a path says at its end that it leads to a directory. -/
def endsInSlash (p : Path) : Bool := p.chars.getLast? = some '/'

/-- A path without the slashes at its end. -/
def bare (p : Path) : Path := ⟨(p.chars.reverse.dropWhile (· = '/')).reverse⟩

/-- Takes steps from a directory to a file that is there or can be created: the last name may be
new, and leads to no file if there is a slash after it. What a link leads to is walked by
`follow`; one at the end of the way says anew whether it leads to a directory. -/
def walkToFile (d : Disk)
    (follow : Bool → Location → List Component → Except DiskError Location)
    (slash : Bool) (here : Location) : List Component → Except DiskError Location
  | [] => .error .isADirectory
  | .root :: rest => walkToFile d follow slash [] rest
  | .here :: rest => walkToFile d follow slash here rest
  | .up :: rest => walkToFile d follow slash here.dropLast rest
  | .name n :: rest =>
    if rest.isEmpty && slash then .error .isADirectory
    else if maxName < (String.ofList n).utf8ByteSize then .error .nameTooLong
    else
      match d.find? (here ++ [n]) with
      | none => if rest.isEmpty then .ok (here ++ [n]) else .error .notFound
      | some (.file _) => if rest.isEmpty then .ok (here ++ [n]) else .error .notADirectory
      | some .directory => walkToFile d follow slash (here ++ [n]) rest
      | some (.link target) =>
        if rest.isEmpty then follow (endsInSlash target) here (steps (bare target))
        else follow slash here (steps target ++ rest)

/-- `walkToFile` through at most `links` links. -/
def walkToFileLinks (d : Disk) :
    Nat → Bool → Location → List Component → Except DiskError Location
  | 0 => walkToFile d fun _ _ _ => .error .tooManyLinks
  | links + 1 => walkToFile d (walkToFileLinks d links)

/-- The location at which a file is created or overwritten for a path. -/
def place (d : Disk) (p : Path) : Except DiskError Location :=
  if p.chars.isEmpty then .error .notFound
  else if maxPath < p.toString.utf8ByteSize then .error .nameTooLong
  else walkToFileLinks d maxLinks (endsInSlash p) d.workingDirectory (steps (bare p))

/-- Creates or overwrites a file. -/
def write (d : Disk) (p : Path) (content : String) : Except DiskError Disk := do
  return d.put (← d.place p) (.file content.toUTF8)

end Disk

end ImportWeb
