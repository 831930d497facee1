import ImportWeb.Text.Blank
import ImportWeb.Text.Decimal
import ImportWeb.Text.Split
import ImportWeb.Unicode

/-!
Log messages and which of them are shown. A filter is a list of directives, each a level for a
target, for a span or for everything; the more specific a directive is, the earlier it stands, and
those for spans come last.
-/

namespace ImportWeb

inductive LogLevel where
  | off
  | error
  | warn
  | info
  | debug
  | trace
  deriving DecidableEq, Repr, Inhabited

namespace LogLevel

def all : List LogLevel := [off, error, warn, info, debug, trace]

def name : LogLevel → String
  | off => "off"
  | error => "error"
  | warn => "warn"
  | info => "info"
  | debug => "debug"
  | trace => "trace"

/-- How much is shown at a level: the greater the more. -/
def rank : LogLevel → Nat
  | off => 0
  | error => 1
  | warn => 2
  | info => 3
  | debug => 4
  | trace => 5

/-- A level by its name in any ASCII case or by its number. -/
def ofText? (s : List Char) : Option LogLevel :=
  if Text.isDecimal s then all[Text.ofDecimal s]?
  else all.find? fun level => level.name.toList = s.map Char.toLower

end LogLevel

/-- A message of a part of the program. -/
structure LogEvent where
  level : LogLevel
  /-- The part of the program that it comes from. -/
  target : String
  text : String
  deriving DecidableEq, Repr

/-- The line of a message, without its time. -/
def LogEvent.line (e : LogEvent) : String :=
  let level := e.level.name.toList.map Char.toUpper
  String.ofList (List.replicate (5 - level.length) ' ' ++ level) ++ " " ++ e.text

structure Directive where
  target : Option (List Char)
  span : Option (List Char)
  level : LogLevel
  deriving DecidableEq, Repr

namespace Directive

/-- What a directive may begin with, if it does not begin with a span. -/
def isTargetStart (c : Char) : Bool :=
  c = '-' || c = ':' || c = '_' || Unicode.isAlphabetic c || Unicode.isNumeric c

/-- The level after an equals sign; without one everything is shown. -/
def levelOf? : List Char → Option LogLevel
  | [] => some .trace
  | '=' :: [] => some .trace
  | '=' :: level => LogLevel.ofText? level
  | _ => none

/-- A level alone, or a target, a span in brackets or both, with or without a level. -/
def ofText? (s : List Char) : Option Directive :=
  let target := s.takeWhile fun c => c != '=' && c != '['
  if ! target.head?.all isTargetStart then none
  else
    let named := if target.isEmpty then none else some target
    match s.drop target.length with
    | '[' :: rest =>
      let span := rest.takeWhile (· != ']')
      if span.contains '\x7b' then none
      else
        match rest.drop span.length with
        | _ :: rest => (levelOf? rest).map (⟨named, some span, ·⟩)
        | [] => none
    | [] =>
      match LogLevel.ofText? target with
      | some level => some ⟨none, none, level⟩
      | none => named.map fun target => ⟨some target, none, .trace⟩
    | rest => do return ⟨some (← named), none, ← levelOf? rest⟩

def text (d : Directive) : List Char :=
  let span := match d.span with
    | some span => '[' :: span ++ [']']
    | none => []
  let place := d.target.getD [] ++ span
  if d.target.isNone && d.span.isNone then d.level.name.toList
  else place ++ '=' :: d.level.name.toList

def byteLength (s : List Char) : Nat := (String.ofList s).utf8ByteSize

/-- Texts that are there before those that are not, and the longer or later ones first. -/
def compareTexts (measure : List Char → Nat) : Option (List Char) → Option (List Char) → Ordering
  | none, none => .eq
  | some _, none => .lt
  | none, some _ => .gt
  | some s, some t => (compare (measure t) (measure s)).then (compareOfLessAndEq t s)

/-- The more specific directive first: longer targets, then those with a span. -/
def order (a b : Directive) : Ordering :=
  (compareTexts byteLength a.target b.target).then (compareTexts (fun _ => 0) a.span b.span)

/-- Puts a directive in its place; it replaces one for the same target and span. -/
def insert (d : Directive) : List Directive → List Directive
  | [] => [d]
  | e :: rest =>
    match d.order e with
    | .eq => d :: rest
    | .lt => d :: e :: rest
    | .gt => e :: insert d rest

end Directive

namespace LogFilter

/-- The filter that the environment asks for, if it can be read. -/
def ofText? (s : List Char) : Option (List Directive) := do
  let parts := (Text.splitAtChar ',' s).filter (! ·.isEmpty)
  let directives ← parts.mapM fun part => Directive.ofText? (Text.trim part)
  let filter := directives.foldl (fun filter d => d.insert filter) []
  let (spans, others) := filter.partition fun d => d.span.isSome
  return if filter.isEmpty then [⟨none, none, .error⟩] else others ++ spans

def text (filter : List Directive) : List Char :=
  Text.joinWith [','] (filter.map Directive.text)

/-- What the names of all parts of the program begin with. -/
def programName : List Char := "codeweb".toList

def program (level : LogLevel) : List Directive := [⟨some programName, none, level⟩]

/-- Whether a directive is for a target. One for a span is for none, as the program opens none. -/
def covers (target : List Char) (d : Directive) : Bool :=
  d.span.isNone && d.target.all (·.isPrefixOf target)

/-- The first directive for the target of a message decides. -/
def shows (filter : List Directive) (e : LogEvent) : Bool :=
  match filter.find? (covers e.target.toList) with
  | some d => e.level.rank ≤ d.level.rank
  | none => false

/-- Verbose wins over quiet; without either the environment decides, and the program's own
messages are shown from info on if it does not. -/
def choose (verbose quiet : Bool) (environment : Option String) : List Directive :=
  if verbose then program .debug
  else if quiet then program .error
  else (environment.bind fun s => ofText? s.toList).getD (program .info)

end LogFilter

end ImportWeb
