import ImportWeb.Command

/-!
What a command does: what it says, and what the disk holds afterwards. Only a graph that goes
to a file changes the disk.
-/

namespace ImportWeb.Command

inductive Failure where
  | request (error : RequestError)
  | write (path : Path) (error : DiskError)
  deriving DecidableEq, Repr

namespace Failure

/-- What went wrong, and why if that is a matter of its own. -/
def parts : Failure → String × Option String
  | request (.style e) => (e.message, none)
  | request (.survey root e) => ("failed to scan " ++ root.toString, some e.message)
  | write path e => ("failed to write " ++ path.toString, some e.message)

/-- A cause, each of its lines indented. -/
def indented (cause : String) : String :=
  String.ofList (cause.toList.flatMap fun c => if c = '\n' then "\n    ".toList else [c])

def text (what : String) : Option String → String
  | none => "Error: " ++ what
  | some cause => "Error: " ++ what ++ "\n\nCaused by:\n    " ++ indented cause

def message (f : Failure) : String := text f.parts.1 f.parts.2

end Failure

/-- What a command that succeeds leaves behind. -/
structure Outcome where
  output : String
  /-- What there is to say beside the output. -/
  warning : Option String
  disk : Disk

/-- The file that a graph goes to. -/
def targetOf (format : Format) (path : Option Path) : Path :=
  path.getD (.ofString ("codeweb." ++ format.fileSuffix))

/-- The file that a command writes, if it succeeds. -/
def target? : Command → Option Path
  | .graph _ format (.file path) => some (targetOf format path)
  | _ => none

/-- A text that is filled up with blanks. -/
def padded (width : Nat) (s : String) : String :=
  s ++ String.ofList (List.replicate (width - s.length) ' ')

def styleLine (s : Style) : String :=
  "  " ++ padded 20 s.name ++ " [" ++ ", ".intercalate s.extensions ++ "]  " ++ s.source

/-- Each language with its styles below it. -/
def styleLines (r : Registry) : List String :=
  r.languages.flatMap fun l => l.name :: l.styles.map styleLine

/-- The languages of a project, or the built-in ones. -/
def listedRegistry (disk : Disk) : Option Path → Except RequestError Registry
  | none => .ok .builtin
  | some root => Request.registry ⟨root, false, []⟩ disk

/-- Sends a rendered graph where it goes. -/
def deliver (disk : Disk) (format : Format) (text : String) : Destination → Except Failure Outcome
  | .standardOutput => .ok ⟨text, none, disk⟩
  | .file path =>
    let target := targetOf format path
    match disk.write target text with
    | .ok disk => .ok ⟨"", none, disk⟩
    | .error e => .error (.write target e)

/-- Carries out a command, which takes the given time. -/
def run (disk : Disk) (nanoseconds : Nat) : Command → Except Failure Outcome
  | .graph request format destination => do
    let web ← (request.web disk).mapError .request
    deliver disk format (request.render disk format web) destination
  | .stats request json => do
    let web ← (request.web disk).mapError .request
    let summary := request.summary web nanoseconds
    return if json then ⟨summary.jsonText, none, disk⟩ else ⟨summary.text, summary.warning?, disk⟩
  | .styles root => do
    let registry ← (listedRegistry disk root).mapError .request
    return ⟨Text.unlines (styleLines registry), none, disk⟩

end ImportWeb.Command
