import ImportWeb.Command

/-!
Reading a command line. Words are taken one at a time. A value that comes as a word of its own
is settled only when the next switch or path arrives or the line ends, so a word that nothing
stands for is reported ahead of a wrong value before it.
-/

namespace ImportWeb.Command

/-- Why a line leads to no command. -/
inductive Stop where
  /-- Asked for, with all there is to say or in short. -/
  | help (level : Level) (long : Bool)
  | version (level : Level)
  | noArguments
  | unknownArgument (text : String)
  | invalidSubcommand (text : String)
  | missingSubcommand
  | missingPath
  | missingValue (slot : Slot)
  | invalidValue (slot : Slot) (value : String)
  | unneededValue (word : String)
  | repeated (switch : Switch)
  | outputAndStdout
  deriving DecidableEq, Repr

/-- What help there is for a word. -/
def helpLevel? (word : String) : Option Level :=
  if word = "help" then some .top else (Name.ofText? word).map .command

/-! ### What is given -/

/-- What one level of the line has settled. -/
structure Given where
  flags : List Flag
  format : Option Format
  output : Option Path
  languages : List String
  path : Option Path
  deriving DecidableEq, Repr

namespace Given

def nothing : Given := ⟨[], none, none, [], none⟩

def has (g : Given) (f : Flag) : Bool := g.flags.contains f

def withFlag (g : Given) (f : Flag) : Except Stop Given :=
  if g.has f then .error (.repeated (.flag f)) else .ok { g with flags := g.flags ++ [f] }

/-- Paths are never empty. -/
def path? (s : Slot) (value : String) : Except Stop Path :=
  if value.isEmpty then .error (.invalidValue s value) else .ok (.ofString value)

/-- Puts a value in its slot. Languages add up, split at commas; all else comes once. -/
def withValue (g : Given) (s : Slot) (value : String) : Except Stop Given :=
  match s with
  | .format =>
    if g.format.isSome then .error (.repeated (.slot s))
    else
      match Format.ofName? false value with
      | some f => .ok { g with format := some f }
      | none => .error (.invalidValue s value)
  | .output =>
    if g.output.isSome then .error (.repeated (.slot s))
    else do return { g with output := some (← path? s value) }
  | .languages =>
    let pieces := (Text.splitAtChar ',' value.toList).map String.ofList
    .ok { g with languages := g.languages ++ pieces }
  | .path => do return { g with path := some (← path? s value) }

end Given

/-! ### One word -/

structure State where
  given : Given
  /-- A slot that is not settled, with its value if that has come. -/
  pending : Option (Slot × Option String)
  /-- Whether two dashes have ended the switches. -/
  ended : Bool
  deriving DecidableEq, Repr

namespace State

def start : State := ⟨.nothing, none, false⟩

/-- Settles what is pending. -/
def settle (s : State) : Except Stop State :=
  match s.pending with
  | none => .ok s
  | some (slot, none) => .error (.missingValue slot)
  | some (slot, some value) => do
    return { s with given := ← s.given.withValue slot value, pending := none }

def withFlag (s : State) (f : Flag) : Except Stop State := do
  let s ← s.settle
  return { s with given := ← s.given.withFlag f }

def withValue (s : State) (slot : Slot) (value : String) : Except Stop State := do
  let s ← s.settle
  return { s with given := ← s.given.withValue slot value }

/-- Opens a slot whose value may follow. -/
def awaiting (s : State) (slot : Slot) (value : Option String) : Except Stop State := do
  return { ← s.settle with pending := some (slot, value) }

def stop (s : State) (reason : Stop) : Except Stop State := do
  let _ ← s.settle
  .error reason

def hasPath (s : State) : Bool :=
  s.given.path.isSome || s.pending.any fun (slot, _) => slot = .path

/-- A word with two dashes, which may hold a value after an equals sign. -/
def long (l : Level) (s : State) (word : String) (value : Option String) : Except Stop State :=
  match l.ofLong? word, value with
  | none, _ => .error (.unknownArgument ("--" ++ word))
  | some (.slot slot), none => s.awaiting slot none
  | some (.slot slot), some value => s.withValue slot value
  | some _, some _ => .error (.unneededValue word)
  | some (.flag f), none => s.withFlag f
  | some .help, none => s.stop (.help l true)
  | some .version, none => s.stop (.version l)

/-- The value in the rest of a word after the letter of a slot, with or without a sign. -/
def attached? : List Char → Option String
  | [] => none
  | '=' :: value => some (String.ofList value)
  | value => some (String.ofList value)

/-- Letters after one dash. -/
def letters (l : Level) (s : State) : List Char → Except Stop State
  | [] => .ok s
  | c :: rest =>
    match l.ofShort? c with
    | none => .error (.unknownArgument (String.ofList ['-', c]))
    | some (.slot slot) =>
      match attached? rest with
      | none => s.awaiting slot none
      | some value => s.withValue slot value
    | some (.flag f) => do letters l (← s.withFlag f) rest
    | some .help => s.stop (.help l false)
    | some .version => s.stop (.version l)

/-- What is wrong with a word that there is no place for. -/
def surplus (l : Level) (s : State) (word : String) : Stop :=
  match l with
  | .command _ => .unknownArgument word
  | .top =>
    if s.ended && (helpLevel? word).isSome then .unknownArgument word else .invalidSubcommand word

/-- A word that stands for itself. -/
def plain (l : Level) (s : State) (word : String) : Except Stop State :=
  if l.takesPath && ! s.hasPath then s.awaiting .path (some word) else .error (s.surplus l word)

/-- Takes one word. A dash alone is no switch. -/
def take (l : Level) (s : State) (word : String) : Except Stop State :=
  if s.ended then s.plain l word
  else
    match word.toList with
    | ['-', '-'] => .ok { s with ended := true }
    | '-' :: '-' :: rest =>
      let value := (rest.dropWhile (· != '=')).tail?.map String.ofList
      s.long l (String.ofList (Text.before '=' rest)) value
    | '-' :: c :: rest => s.letters l (c :: rest)
    | _ =>
      match s.pending with
      | some (slot, none) => .ok { s with pending := some (slot, some word) }
      | _ => s.plain l word

end State

/-! ### A whole line -/

/-- What the words after `help` ask for. -/
def helpOn : List String → Stop
  | [] => .help .top true
  | word :: rest =>
    match helpLevel? word, rest with
    | none, _ => .invalidSubcommand word
    | some level, [] => .help level true
    | some _, next :: _ => .invalidSubcommand next

/-- Takes words up to the name of a command, which stands with the words after it. -/
def readTop (s : State) : List String → Except Stop (State × Option (Name × List String))
  | [] => .ok (s, none)
  | word :: rest =>
    if s.ended then do readTop (← s.take .top word) rest
    else if word = "help" then .error (helpOn rest)
    else
      match Name.ofText? word with
      | some name => .ok (s, some (name, rest))
      | none => do readTop (← s.take .top word) rest

namespace Given

def root (g : Given) : Except Stop Path :=
  match g.path with
  | some p => .ok p
  | none => .error .missingPath

def request (g : Given) : Except Stop Request := do
  return ⟨← g.root, g.has .includeExternal, g.languages⟩

def destination (g : Given) : Except Stop Destination :=
  if g.has .stdout then
    if g.output.isSome then .error .outputAndStdout else .ok .standardOutput
  else .ok (.file g.output)

def command (g : Given) : Name → Except Stop Command
  | .graph => do
    let destination ← g.destination
    return .graph (← g.request) (g.format.getD .html) destination
  | .stats => do return .stats (← g.request) (g.has .json)
  | .styles => .ok (.styles g.path)

end Given

/-- The command after its name, with what was given before the name. -/
def readCommand (top : Given) (name : Name) (words : List String) : Except Stop Invocation := do
  let s ← (← words.foldlM (State.take (.command name)) .start).settle
  let both := fun f => top.has f || s.given.has f
  return ⟨both .verbose, both .quiet, ← s.given.command name⟩

def parse (words : List String) : Except Stop Invocation := do
  match ← readTop .start words with
  | (s, some (name, rest)) => readCommand s.given name rest
  | (s, none) => .error (if s.given.flags.isEmpty then .noArguments else .missingSubcommand)

end ImportWeb.Command
