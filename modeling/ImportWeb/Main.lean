import ImportWeb.Command.Ending
import ImportWeb.Command.Log

/-!
The program: it notes what is on disk as far as a command can ask for it, carries the command
out on these notes, and writes and prints what comes of it.
-/

namespace ImportWeb.Program

/-- What is at an absolute path, links not followed. -/
def kind? (path : String) : IO (Option IO.FS.FileType) := do
  try
    let here ← IO.currentDir
    return some (← (here / path).symlinkMetadata).type
  catch _ => return none

def realPath? (path : String) : IO (Option String) := do
  try return some (← IO.FS.realPath path).toString
  catch _ => return none

/-- The bytes of a file. One that cannot be read counts as one that is not text. -/
def content (path : String) : IO ByteArray := do
  try IO.FS.readBinFile path
  catch _ => return ⟨#[0xff]⟩

def fileNames (directory : String) : IO (List String) := do
  try
    let here ← IO.currentDir
    return (← (here / directory).readDir).toList.map (·.fileName)
  catch _ => return []

/-- Notes everything that steps from a directory lead to or through. -/
partial def noteWay (d : Disk) (here : Location) : List Component → IO Disk
  | [] => return d
  | .root :: rest => noteWay d [] rest
  | .here :: rest => noteWay d here rest
  | .up :: rest => noteWay d here.dropLast rest
  | .name n :: rest => do
    let next := here ++ [n]
    let path := next.toPath.toString
    match ← kind? path with
    | some .dir => noteWay (d.put next .directory) next rest
    | some .file => return d.put next (.file (← content path))
    | some .symlink =>
      match ← realPath? path with
      | some real =>
        let target := Path.ofString real
        noteWay (d.put next (.link target)) [] (Disk.steps target ++ rest)
      | none => return d
    | _ => return d

def notePath (d : Disk) (p : Path) : IO Disk := noteWay d d.workingDirectory (Disk.steps p)

/-- Notes everything below a directory. -/
partial def noteTree (d : Disk) (directory : Location) : IO Disk := do
  (← fileNames directory.toPath.toString).foldlM (fun d name => do
    let place := directory ++ [name.toList]
    match ← kind? place.toPath.toString with
    | some .dir => noteTree (d.put place .directory) place
    | _ => notePath d place.toPath) d

/-- Notes a project and all that its imports may lead to. -/
def noteProject (d : Disk) (r : Request) : IO Disk := do
  let d ← notePath d r.root
  match d.locate r.root with
  | .error _ => return d
  | .ok root =>
    let d ← noteTree d root
    let d ← ((Survey.ignoreFilesAbove root).map Location.toPath).foldlM notePath d
    (r.candidates d).foldlM notePath d

/-- Notes what a command can ask for. -/
def noteFor (c : Command) : IO Disk := do
  let here := Path.ofString (← IO.FS.realPath (← IO.currentDir)).toString
  let d ← notePath (.empty (.ofPath here)) here
  match c with
  | .graph r format destination => do
    let d ← noteProject d r
    match Command.target? (.graph r format destination) with
    | some target => notePath d target
    | none => return d
  | .stats r _ => noteProject d r
  | .styles (some root) => notePath d (root.push Settings.fileName.toList)
  | .styles none => return d

/-- Notes what the command of a line can ask for. -/
def noteLine (words : List String) : IO Disk :=
  match Command.parse words with
  | .error _ => return .empty []
  | .ok i => noteFor i.command

/-- Shows the messages of a line. -/
def report (disk : Disk) (words : List String) : IO Unit := do
  match Command.parse words with
  | .error _ => return
  | .ok i =>
    for e in i.shown (← IO.getEnv "RUST_LOG") disk do
      IO.eprintln e.line

/-- The file that a line asks for, if it succeeds. -/
def target? (words : List String) : Option Path :=
  match Command.parse words with
  | .error _ => none
  | .ok i => i.command.target?

/-- Writes the file that a run leaves behind, as it stands in the notes. -/
def write (target : Path) (d : Disk) : IO Unit := do
  match d.bytes? target with
  | some bytes => IO.FS.writeBinFile target.toString bytes
  | none => return

/-- Brings to the outside what a run with a target leaves behind. -/
def publish (target : Option Path) (e : Command.Ending) : IO UInt32 := do
  if e.code = 0 then
    for path in target do
      try write path e.disk
      catch error =>
        let failure := Command.Failure.text ("failed to write " ++ path.toString)
        IO.eprintln (failure (some error.toString))
        return 1
  IO.print e.output
  IO.eprint e.errors
  return e.code.toUInt32

end ImportWeb.Program

open ImportWeb in
def main (args : List String) : IO UInt32 := do
  let start ← IO.monoNanosNow
  let disk ← Program.noteLine args
  let elapsed := (← IO.monoNanosNow) - start
  Program.report disk args
  Program.publish (Program.target? args) (.ofLine disk elapsed args)
