import ImportWeb.RawPath
import ImportWeb.Text.Blank

/-!
Ignore files. Each line of one is a rule for the paths below its directory: the last rule that
matches a path decides whether it is left out or, behind an exclamation mark, kept. Matching
looks at the bytes of a path, and only two stars cross a slash.
-/

namespace ImportWeb.Ignore

open RawPath (slash)

abbrev Bytes := List UInt8

inductive Token where
  | byte (b : UInt8)
  /-- Any byte but a slash. -/
  | any
  /-- Bytes without a slash, or none. -/
  | run
  /-- Leading components with their slash, or none. -/
  | leading
  /-- A slash and anything after it. -/
  | trailing
  /-- A slash, or components between two slashes. -/
  | between
  | oneOf (negated : Bool) (ranges : List (Bytes × Bytes))
  | choice (branches : List (List Token))
  deriving Repr, Inhabited

/-! ### Reading a rule -/

/-- A class after its bracket has been opened: the ranges read so far, last first, and whether
a hyphen has begun another one. -/
def class? (first inRange : Bool) (ranges : List (Char × Char)) :
    List Char → Option (List (Char × Char) × List Char)
  | [] => none
  | c :: rest =>
    if c = ']' ∧ ! first then
      some (if inRange then ('-', '-') :: ranges else ranges, rest)
    else if c = '-' ∧ ! first ∧ ! inRange then class? false true ranges rest
    else
      match inRange, ranges with
      | true, r :: ranges =>
        if r.1 ≤ c then class? false false ((r.1, c) :: ranges) rest else none
      | _, ranges => class? false false ((c, c) :: ranges) rest

/-- Whether a class opened here is closed at all. -/
def isClosed (s : List Char) : Bool :=
  let s := match s with
    | '!' :: rest => rest
    | '^' :: rest => rest
    | s => s
  (s.drop 1).contains ']'

/-- The tokens so far: of each open choice the branches before the current one, all last first. -/
structure Reading where
  current : List Token
  branches : List (List Token)
  outer : List (List Token × List (List Token))

def Reading.push (r : Reading) (t : Token) : Reading := { r with current := t :: r.current }

/-- Two stars, with the character before them and the text after them. -/
def stars (r : Reading) (previous : Option Char) (s : List Char) : Reading × List Char :=
  let plain := ((r.push .run).push .run, s)
  let atStart := r.current.isEmpty
  let afterSlash := previous = some '/'
  let inBranch := ! r.outer.isEmpty && (previous = some ',' || previous = some '\x7b')
  if atStart then
    match s with
    | [] => (r.push .leading, [])
    | '/' :: rest => (r.push .leading, rest)
    | _ => plain
  else if ! afterSlash && ! inBranch then plain
  else
    let join := fun t =>
      match r.current with
      | .leading :: _ => r
      | .trailing :: _ => r
      | _ :: before => { r with current := t :: before }
      | [] => r.push t
    match s with
    | [] => (join .trailing, [])
    | '/' :: rest => (join .between, rest)
    | c :: _ =>
      if (c = ',' || c = '\x7d') && ! r.outer.isEmpty then (join .trailing, s) else plain

/-- The tokens of a rule's text; none if a bracket, a brace or an escape is wrong. -/
def tokens? (fuel : Nat) (previous : Option Char) (literal : Bool) (r : Reading) (s : List Char) :
    Option (List Token) :=
  match fuel, s with
  | 0, _ => none
  | _ + 1, [] => if r.outer.isEmpty then some r.current.reverse else none
  | fuel + 1, c :: rest =>
    let one := fun c => (Text.utf8 [c]).foldl (fun r b => r.push (.byte b)) r
    match c with
    | '?' => tokens? fuel (some c) literal (r.push .any) rest
    | '*' =>
      match rest with
      | '*' :: rest =>
        let (r, after) := stars r previous rest
        tokens? fuel (if after.length < rest.length then some '/' else some '*') literal r after
      | rest => tokens? fuel (some c) literal (r.push .run) rest
    | '[' =>
      if literal || ! isClosed rest then tokens? fuel (some c) true (one c) rest
      else
        let (negated, s) := match rest with
          | '!' :: rest => (true, rest)
          | '^' :: rest => (true, rest)
          | s => (false, s)
        match class? true false [] s with
        | none => none
        | some (ranges, rest) =>
          let ranges := ranges.reverse.map fun r => (Text.utf8 [r.1], Text.utf8 [r.2])
          tokens? fuel (some ']') literal (r.push (.oneOf negated ranges)) rest
    | '\x7b' =>
      tokens? fuel (some c) literal ⟨[], [], (r.current, r.branches) :: r.outer⟩ rest
    | '\x7d' =>
      match r.outer with
      | [] => none
      | (current, branches) :: outer =>
        let all := (r.current.reverse :: r.branches).reverse.filter (! ·.isEmpty)
        let current := if all.isEmpty then current else .choice all :: current
        tokens? fuel (some c) literal ⟨current, branches, outer⟩ rest
    | ',' =>
      if r.outer.isEmpty then tokens? fuel (some c) literal (one c) rest
      else tokens? fuel (some c) literal ⟨[], r.current.reverse :: r.branches, r.outer⟩ rest
    | '\\' =>
      match rest with
      | [] => none
      | c :: rest => tokens? fuel (some c) literal (one c) rest
    | c => tokens? fuel (some c) literal (one c) rest

structure Rule where
  keeps : Bool
  onlyDirectories : Bool
  tokens : List Token
  deriving Repr

def endsWith (suffix s : List Char) : Bool := suffix.reverse.isPrefixOf s.reverse

/-- A rule without a slash matches at any depth, and one that ends in two stars matches what is
inside a directory but not the directory. -/
def globText (anchored : Bool) (s : List Char) : List Char :=
  let free := ! anchored && ! s.contains '/' && s != ['*', '*']
  let s := if free then '*' :: '*' :: '/' :: s else s
  if endsWith ['/', '*', '*'] s then s ++ ['/', '*'] else s

/-- Removes the slash at the end, with a backslash before it, and says whether it was there. -/
def cutSlash (s : List Char) : Bool × List Char :=
  match s.reverse with
  | '/' :: '\\' :: rest => (true, rest.reverse)
  | '/' :: rest => (true, rest.reverse)
  | _ => (false, s)

/-- The rule of a line; none for comments, empty lines and wrong patterns. -/
def Rule.ofLine? (line : List Char) : Option Rule := do
  let line := if endsWith ['\\', ' '] line then line else Text.trimEnd line
  if line.isEmpty || line.head? = some '#' then none
  else
    let (keeps, anchored, s) := match line with
      | '\\' :: '!' :: _ => (false, false, line.drop 1)
      | '\\' :: '#' :: _ => (false, false, line.drop 1)
      | '!' :: '/' :: rest => (true, true, rest)
      | '!' :: rest => (true, false, rest)
      | '/' :: rest => (false, true, rest)
      | s => (false, false, s)
    let (onlyDirectories, s) := cutSlash s
    let s := globText anchored s
    let tokens ← tokens? (s.length + 1) none false ⟨[], [], []⟩ s
    return ⟨keeps, onlyDirectories, tokens⟩

/-! ### Matching -/

def tails : Bytes → List Bytes
  | [] => [[]]
  | b :: rest => (b :: rest) :: tails rest

/-- The ends of a path up to and with its first slash. -/
def runTails : Bytes → List Bytes
  | [] => [[]]
  | b :: rest => if b = slash then [b :: rest] else (b :: rest) :: runTails rest

/-- What follows each slash. -/
def afterSlashes : Bytes → List Bytes
  | [] => []
  | b :: rest => if b = slash then rest :: afterSlashes rest else afterSlashes rest

/-- The bytes of a class: those of its single characters, and those from the last byte of a
range's first character to the first byte of its last. -/
def classHas (ranges : List (Bytes × Bytes)) (b : UInt8) : Bool :=
  ranges.any fun r =>
    if r.1 = r.2 then r.1.contains b
    else
      r.1.dropLast.contains b || r.2.tail.contains b ||
        match r.1.getLast?, r.2.head? with
        | some lo, some hi => lo ≤ b && b ≤ hi
        | _, _ => false

mutual

/-- What may be left of a path after a token has taken its part. -/
def Token.after : Token → Bytes → List Bytes
  | .byte b, s => if s.head? = some b then [s.tail] else []
  | .any, s => if s.isEmpty || s.head? = some slash then [] else [s.tail]
  | .run, s => runTails s
  | .leading, s => s :: afterSlashes s
  | .trailing, s => if s.head? = some slash then tails s.tail else []
  | .between, s => if s.head? = some slash then s.tail :: afterSlashes s.tail else []
  | .oneOf negated ranges, s =>
    match s with
    | [] => []
    | b :: rest => if classHas ranges b != negated then [rest] else []
  | .choice branches, s => afterAny branches s

def afterAny : List (List Token) → Bytes → List Bytes
  | [], _ => []
  | branch :: rest, s => afterAll branch [s] ++ afterAny rest s

/-- What may be left of any of several paths after all tokens. -/
def afterAll : List Token → List Bytes → List Bytes
  | [], rests => rests
  | t :: more, rests => afterAll more ((rests.flatMap fun s => t.after s).eraseDups)

end

/-- Whether a rule's pattern matches a path. Two stars alone match every path. -/
def Rule.matchesPath (r : Rule) (path : Bytes) : Bool :=
  match r.tokens with
  | [.leading] => true
  | tokens => (afterAll tokens [path]).any List.isEmpty

/-- What the rules of one file say of a path: to leave it out, to keep it, or nothing. -/
def verdict? (rules : List Rule) (path : Bytes) (isDirectory : Bool) : Option Bool :=
  (rules.reverse.find? fun r =>
    (! r.onlyDirectories || isDirectory) && r.matchesPath path).map fun r => ! r.keeps

/-- A finished line, read backwards, without a carriage return at its end. -/
def closeLine : Bytes → Bytes
  | 0x0D :: line => line.reverse
  | line => line.reverse

/-- The lines of an ignore file, up to the first that is not text. -/
def textLines (line : Bytes) : Bytes → List (List Char)
  | [] =>
    if line.isEmpty then []
    else (String.fromUTF8? ⟨line.reverse.toArray⟩).toList.map String.toList
  | b :: rest =>
    if b = 0x0A then
      match String.fromUTF8? ⟨(closeLine line).toArray⟩ with
      | some text => text.toList :: textLines [] rest
      | none => []
    else textLines (b :: line) rest

/-- The rules of an ignore file. A byte order mark at its start does not count. -/
def rulesOf (content : ByteArray) : List Rule :=
  let lines := match textLines [] content.toList with
    | first :: rest => first.dropWhile (· = '\ufeff') :: rest
    | [] => []
  lines.filterMap Rule.ofLine?

end ImportWeb.Ignore
