import ImportWeb.Request

/-!
What can be asked for on the command line, and the words in which it is asked: a command, and
flags and slots for values, each level of the line with its own.
-/

namespace ImportWeb

/-- Where a rendered graph goes. -/
inductive Destination where
  | standardOutput
  /-- The file named, or else one in the working directory that is named for the format. -/
  | file (path : Option Path)
  deriving DecidableEq, Repr

inductive Command where
  | graph (request : Request) (format : Format) (destination : Destination)
  | stats (request : Request) (json : Bool)
  | styles (root : Option Path)
  deriving DecidableEq, Repr

structure Invocation where
  verbose : Bool
  quiet : Bool
  command : Command
  deriving DecidableEq, Repr

namespace Command

/-! ### Words -/

inductive Name where
  | graph
  | stats
  | styles
  deriving DecidableEq, Repr

namespace Name

def all : List Name := [graph, stats, styles]

def text : Name → String
  | graph => "graph"
  | stats => "stats"
  | styles => "styles"

def ofText? (s : String) : Option Name := all.find? (·.text = s)

end Name

/-- What is given without a value, once at most. -/
inductive Flag where
  | verbose
  | quiet
  | stdout
  | includeExternal
  | json
  deriving DecidableEq, Repr

/-- What takes a value. -/
inductive Slot where
  | format
  | output
  | languages
  | path
  deriving DecidableEq, Repr

/-- What a word with a dash stands for. -/
inductive Switch where
  | flag (f : Flag)
  | slot (s : Slot)
  | help
  | version
  deriving DecidableEq, Repr

namespace Switch

/-- The word after two dashes. The path has none: it stands alone. -/
def long? : Switch → Option String
  | flag .verbose => some "verbose"
  | flag .quiet => some "quiet"
  | flag .stdout => some "stdout"
  | flag .includeExternal => some "include-external"
  | flag .json => some "json"
  | slot .format => some "format"
  | slot .output => some "output"
  | slot .languages => some "lang"
  | slot .path => none
  | help => some "help"
  | version => some "version"

/-- The letter after one dash. -/
def short? : Switch → Option Char
  | flag .verbose => some 'v'
  | flag .quiet => some 'q'
  | slot .output => some 'o'
  | help => some 'h'
  | version => some 'V'
  | _ => none

end Switch

/-- The line itself, or what follows the name of a command. -/
inductive Level where
  | top
  | command (name : Name)
  deriving DecidableEq, Repr

namespace Level

/-- The switches that every level has. -/
def common : List Switch := [.flag .verbose, .flag .quiet, .help, .version]

def switches : Level → List Switch
  | top => common
  | command .graph =>
    [.slot .format, .slot .output, .flag .stdout, .flag .includeExternal, .slot .languages] ++ common
  | command .stats => [.flag .json, .flag .includeExternal, .slot .languages] ++ common
  | command .styles => common

/-- Whether a path can be given. -/
def takesPath : Level → Bool
  | top => false
  | command _ => true

def ofLong? (l : Level) (word : String) : Option Switch :=
  l.switches.find? (·.long? = some word)

def ofShort? (l : Level) (letter : Char) : Option Switch :=
  l.switches.find? (·.short? = some letter)

end Level

end Command

end ImportWeb
