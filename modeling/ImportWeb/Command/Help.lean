import ImportWeb.Command.Parser

/-!
What the program says about its own command line: the help on each level, its version, and why
a line leads to no command. The help on a level lists its words in two columns; the long help on
one whose words need more room sets every text below its word.
-/

namespace ImportWeb.Command

def programName : String := "codeweb"

def programVersion : String := "0.3.0"

/-! ### Words and what they are for -/

namespace Name

def summary : Name → String
  | graph => "Build the import graph of a project and render it"
  | stats => "Scan a project and print node, edge and import counts"
  | styles => "List the registered import rule-sets"

end Name

def Slot.placeholder : Slot → String
  | .format => "<FORMAT>"
  | .output => "<OUTPUT>"
  | .languages => "<LANG>"
  | .path => "<PATH>"

/-- What a format is for. -/
def formatSummary : Format → String
  | .html => "Standalone interactive page driven by vis-network (default)"
  | .dot => "Graphviz DOT"
  | .mermaid => "Mermaid flowchart. Best for small graphs in markdown"
  | .json => "Plain nodes/edges JSON"

namespace Switch

def label (s : Switch) : String :=
  let short := match s.short? with
    | some c => String.ofList ['-', c, ',', ' ']
    | none => "    "
  let value := match s with
    | slot x => " " ++ x.placeholder
    | _ => ""
  short ++ "--" ++ s.long?.getD "" ++ value

def summary (l : Level) : Switch → String
  | flag .verbose => "Debug-level logging on stderr"
  | flag .quiet => "Only log errors"
  | flag .stdout => "Write the rendered graph to stdout instead of a file"
  | flag .includeExternal =>
    match l with
    | .command .stats => "Count unresolved imports as external nodes"
    | _ => "Add unresolved (third-party / standard library) imports as diamond nodes"
  | flag .json => "Output results as JSON instead of human-readable text"
  | slot .format => "Output format"
  | slot .output => "Output file (default: codeweb.<ext> in the current directory)"
  | slot .languages =>
    match l with
    | .command .stats => "Active rule-sets (comma-separated)"
    | _ => "Active rule-sets (comma-separated, e.g. python,c). Defaults to all"
  | slot .path => "Path to the project root to scan"
  | help => "Print help"
  | version => "Print version"

end Switch

namespace Level

/-- The switches in the order in which help lists them. -/
def listed : Level → List Switch
  | top => common
  | command .graph =>
    [.slot .format, .flag .verbose, .slot .output, .flag .quiet, .flag .stdout,
      .flag .includeExternal, .slot .languages, .help, .version]
  | command .stats =>
    [.flag .json, .flag .verbose, .flag .includeExternal, .flag .quiet, .slot .languages, .help,
      .version]
  | command .styles => common

def about : Level → String
  | top => "Scan a source tree for import/include statements and render the dependency web."
  | command name => name.summary

def usage : Level → String
  | top => programName ++ " [OPTIONS] <COMMAND>"
  | command .styles => programName ++ " styles [OPTIONS] [PATH]"
  | command name => programName ++ " " ++ name.text ++ " [OPTIONS] <PATH>"

/-- The path as help shows it, with what it is for. -/
def pathRow? : Level → Option (String × String)
  | top => none
  | command .styles => some ("[PATH]", "Also load user styles from this project's codeweb.toml")
  | command _ => some ("<PATH>", "Path to the project root to scan")

/-- Whether there is more to say than fits in two columns. -/
def hasLongHelp (l : Level) : Bool := l.switches.contains (.slot .format)

/-! ### Help -/

/-- Rows of two columns, the second one aligned. -/
def columns (rows : List (String × String)) : List String :=
  let width := rows.foldl (fun w row => max w row.1.length) 0
  rows.map fun (label, text) =>
    "  " ++ label ++ String.ofList (List.replicate (width - label.length + 2) ' ') ++ text

/-- A heading with rows below it, after an empty line. -/
def part (heading : String) (rows : List String) : List String :=
  if rows.isEmpty then [] else "" :: (heading ++ ":") :: rows

def commandRows : Level → List (String × String)
  | top =>
    Name.all.map (fun n => (n.text, n.summary)) ++
      [("help", "Print this message or the help of the given subcommand(s)")]
  | command _ => []

def formatNames : String := ", ".intercalate (Format.all.map Format.name)

def shortRow (l : Level) (s : Switch) : String × String :=
  let more := match s with
    | .slot .format => " [default: html] [possible values: " ++ formatNames ++ "]"
    | .help => if l.hasLongHelp then " (see more with '--help')" else ""
    | _ => ""
  (s.label, s.summary l ++ more)

def shortHelp (l : Level) : List String :=
  [l.about, "", "Usage: " ++ l.usage] ++ part "Commands" (columns l.commandRows) ++
    part "Arguments" (columns l.pathRow?.toList) ++
    part "Options" (columns (l.listed.map l.shortRow))

/-- A word with the texts below it. -/
def block (label : String) (texts : List String) : List String :=
  ("  " ++ label) :: texts.map fun t => if t.isEmpty then t else "          " ++ t

def formatRows : List String :=
  Format.all.map fun f =>
    let label := f.name ++ ":"
    "- " ++ label ++ String.ofList (List.replicate (9 - label.length) ' ') ++ formatSummary f

def longBlock (l : Level) (s : Switch) : List String :=
  let texts := match s with
    | .slot .format =>
      [s.summary l, "", "Possible values:"] ++ formatRows ++ ["", "[default: html]"]
    | .help => [s.summary l ++ " (see a summary with '-h')"]
    | _ => [s.summary l]
  block s.label texts

/-- Blocks with an empty line between them. -/
def spaced (blocks : List (List String)) : List String :=
  (blocks.intersperse [""]).flatten

def longHelp (l : Level) : List String :=
  [l.about, "", "Usage: " ++ l.usage] ++
    part "Arguments" (spaced (l.pathRow?.toList.map fun (label, text) => block label [text])) ++
    part "Options" (spaced (l.listed.map l.longBlock))

def help (l : Level) (long : Bool) : List String :=
  if long && l.hasLongHelp then l.longHelp else l.shortHelp

def version : Level → String
  | top => programName ++ " " ++ programVersion
  | command name => programName ++ "-" ++ name.text ++ " " ++ programVersion

end Level

/-! ### A line without a command -/

namespace Stop

/-- What a line that asks for it is told. -/
def output : Stop → String
  | help level long => Text.unlines (level.help long)
  | version level => level.version ++ "\n"
  | _ => ""

/-- A line that asks for help or the version has done its work. -/
def code : Stop → Nat
  | help _ _ => 0
  | version _ => 0
  | _ => 2

def slotName (s : Slot) : String := (Switch.slot s).long?.elim s.placeholder fun word =>
  "--" ++ word ++ " " ++ s.placeholder

def switchName (s : Switch) : String := s.long?.elim "" ("--" ++ ·)

/-- What is wrong with a line. -/
def reason? : Stop → Option String
  | help _ _ => none
  | version _ => none
  | noArguments => none
  | unknownArgument text => some ("unexpected argument '" ++ text ++ "' found")
  | invalidSubcommand text => some ("unrecognized subcommand '" ++ text ++ "'")
  | missingSubcommand => some (programName ++ " requires a subcommand but one was not provided")
  | missingPath => some "the following required arguments were not provided:\n  <PATH>"
  | missingValue slot =>
    some ("a value is required for '" ++ slotName slot ++ "' but none was supplied")
  | invalidValue slot value =>
    some ("invalid value '" ++ value ++ "' for '" ++ slotName slot ++ "'")
  | unneededValue word => some ("unexpected value for '--" ++ word ++ "' found; no more were expected")
  | repeated s => some ("the argument '" ++ switchName s ++ "' cannot be used multiple times")
  | outputAndStdout => some "the argument '--stdout' cannot be used with '--output <OUTPUT>'"

/-- What goes beside the output. -/
def message : Stop → String
  | noArguments => Text.unlines (Level.top.help false)
  | s =>
    match s.reason? with
    | some reason => "error: " ++ reason ++ "\n\nFor more information, try '--help'.\n"
    | none => ""

end Stop

end ImportWeb.Command
