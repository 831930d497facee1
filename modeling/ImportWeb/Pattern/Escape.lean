import ImportWeb.Pattern.Expr
import ImportWeb.Pattern.Flags
import ImportWeb.Unicode

/-!
The single items of a regular expression: characters, dots, and what stands after a backslash.
A reader takes the characters left and answers with what it read and the characters after it,
or with nothing if the pattern is wrong.
-/

namespace ImportWeb.Pattern.Reader

/-! ### Escapes -/

/-- A single item of a pattern. -/
inductive Primitive where
  /-- A character, with the byte it was written as, if it was. -/
  | literal (c : Char) (byte : Option Nat)
  | look (l : Look)
  | dot
  | unicodeClass (set : CharSet)
  | perlClass (letter : Char)

def hexDigit? (c : Char) : Option Nat :=
  if '0' ≤ c ∧ c ≤ '9' then some (c.toNat - '0'.toNat)
  else if 'a' ≤ c ∧ c ≤ 'f' then some (c.toNat - 'a'.toNat + 10)
  else if 'A' ≤ c ∧ c ≤ 'F' then some (c.toNat - 'A'.toNat + 10)
  else none

/-- A character by its code point, which must not be a surrogate. -/
def char? (n : Nat) : Option Char :=
  if n < 0xD800 ∨ (0xE000 ≤ n ∧ n ≤ CharSet.maxChar) then some (Char.ofNat n) else none

/-- A fixed number of hexadecimal digits. -/
def hexDigits? (f : Flags) (value : Nat) : Nat → List Char → Option (Nat × List Char)
  | 0, s => some (value, s)
  | n + 1, s =>
    match s with
    | [] => none
    | c :: rest => do hexDigits? f (16 * value + (← hexDigit? c)) n (skip f rest)

/-- Hexadecimal digits up to a closing brace. -/
def hexBraced? (f : Flags) (fuel : Nat) (value : Option Nat) (s : List Char) :
    Option (Nat × List Char) :=
  match fuel, s with
  | fuel + 1, c :: rest =>
    if c = '\x7d' then value.map (·, skip f rest)
    else do
      let value := 16 * value.getD 0 + (← hexDigit? c)
      if value < Nat.pow 2 32 then hexBraced? f fuel (some value) (skip f rest) else none
  | _, _ => none

/-- A character by a number of two, four or eight digits, as the letter says. -/
def hexFixed? (f : Flags) (letter : Char) (s : List Char) : Option (Primitive × List Char) := do
  let width := if letter = 'x' then 2 else if letter = 'u' then 4 else 8
  let (n, rest) ← hexDigits? f 0 width s
  return (.literal (← char? n) (if letter = 'x' then some n else none), rest)

/-- A character by its number, after the letter that says how many digits it has if there are
no braces around them. -/
def hex? (f : Flags) (letter : Char) (s : List Char) : Option (Primitive × List Char) :=
  match skip f s with
  | '\x7b' :: rest => do
    let (n, rest) ← hexBraced? f (rest.length + 1) none (skip f rest)
    return (.literal (← char? n) none, rest)
  | rest => hexFixed? f letter rest

/-- The text before `stop`, in which blanks do not count if the pattern is verbose. -/
def nameUpTo? (f : Flags) (stop : Char) (fuel : Nat) (done s : List Char) :
    Option (List Char × List Char) :=
  match fuel, s with
  | fuel + 1, c :: rest =>
    if c = stop then some (done.reverse, rest) else nameUpTo? f stop fuel (c :: done) (skip f rest)
  | _, _ => none

/-- The texts around the first `mark`. -/
def cut? (mark s : List Char) : Option (List Char × List Char) :=
  match s with
  | [] => none
  | c :: rest =>
    if mark.isPrefixOf s then some ([], s.drop mark.length)
    else (cut? mark rest).map fun (a, b) => (c :: a, b)

/-- The class of a name or of a property and a value. -/
def classOf? (name : List Char) : Option CharSet :=
  match cut? ['!', '='] name with
  | some (property, value) => Unicode.valued? property value
  | none =>
    match cut? [':'] name with
    | some (property, value) => Unicode.valued? property value
    | none =>
      match cut? ['='] name with
      | some (property, value) => Unicode.valued? property value
      | none => Unicode.named? name

/-- Every case of a set's characters, if case does not count, and then its complement, if it
is negated. Without Unicode the outcome must be ASCII. -/
def foldAndNegate? (f : Flags) (negated : Bool) (s : CharSet) : Option CharSet :=
  let s := if f.ignoreCase then (if f.unicode then Unicode.foldCase s else s.foldAscii) else s
  let s := if negated then s.complement f.limit else s
  if f.unicode || s.isAscii then some s else none

/-- The name of a class: a letter, or what stands in braces. -/
def className? (f : Flags) (s : List Char) : Option (List Char × List Char) :=
  match skip f s with
  | [] => none
  | c :: rest =>
    if c = '\x7b' then nameUpTo? f '\x7d' (rest.length + 1) [] (skip f rest)
    else if c = '\\' then none
    else some ([c], skip f rest)

def namedSet? (name : List Char) : Option CharSet :=
  match name with
  | [c] => Unicode.named? [c]
  | name => classOf? name

/-- The class of a name, which needs Unicode. -/
def unicodeSet? (f : Flags) (negated : Bool) (name : List Char) : Option CharSet :=
  if f.unicode then (namedSet? name).bind (foldAndNegate? f negated) else none

/-- A class of the Unicode standard, after its letter. -/
def unicodeClass? (f : Flags) (negated : Bool) (s : List Char) :
    Option (Primitive × List Char) := do
  let (name, rest) ← className? f s
  (unicodeSet? f negated name).map (.unicodeClass ·, rest)

/-- The class of one of the letters d, s and w; capital letters stand for the complements. -/
def perlSet? (f : Flags) (letter : Char) : Option CharSet :=
  let set := match letter.toLower with
    | 'd' => if f.unicode then Unicode.digit else CharSet.asciiDigit
    | 's' => if f.unicode then CharSet.blank else CharSet.asciiSpace
    | _ => if f.unicode then Unicode.word else CharSet.asciiWord
  let set := if letter.isUpper then set.complement f.limit else set
  if f.unicode || set.isAscii then some set else none

/-- The special word boundaries that have a name in braces. -/
def wordLook? (f : Flags) (name : List Char) : Option Look :=
  match String.ofList name with
  | "start" => some (.wordStart (! f.unicode))
  | "end" => some (.wordStop (! f.unicode))
  | "start-half" => some (.wordStartHalf (! f.unicode))
  | "end-half" => some (.wordStopHalf (! f.unicode))
  | _ => none

def isBoundaryChar (c : Char) : Bool := c.isAlpha || c = '-'

/-- The letters of a boundary's name, and what follows them. -/
def boundaryName (f : Flags) (fuel : Nat) (done s : List Char) : List Char × List Char :=
  match fuel, s with
  | fuel + 1, c :: rest =>
    if isBoundaryChar c then boundaryName f fuel (c :: done) (skip f rest)
    else (done.reverse, s)
  | _, s => (done.reverse, s)

/-- A word boundary whose kind is named, up to the closing brace. -/
def namedBoundary? (f : Flags) (s : List Char) : Option (Primitive × List Char) :=
  let (name, after) := boundaryName f s.length [] s
  match after with
  | '\x7d' :: after => (wordLook? f name).map fun l => (.look l, after)
  | _ => none

/-- A word boundary, which may have its kind in braces after it. Braces that do not hold a
name are left for a repetition. -/
def boundary? (f : Flags) (s : List Char) : Option (Primitive × List Char) :=
  let plain : Option (Primitive × List Char) := some (.look (.word (! f.unicode)), s)
  match s with
  | [] => plain
  | c :: rest =>
    if c = '\x7b' then
      match skip f rest with
      | [] => none
      | d :: tail => if isBoundaryChar d then namedBoundary? f (d :: tail) else plain
    else plain

/-- Characters that stand for themselves after a backslash: ASCII without letters, digits and
angle brackets. -/
def isEscapable (c : Char) : Bool :=
  c.toNat < 0x80 && ! c.isAlphanum && c != '<' && c != '>'

/-- What a letter or a sign after a backslash stands for, if nothing else belongs to it. -/
def escaped? (f : Flags) (c : Char) : Option Primitive :=
  match c with
  | 'd' | 's' | 'w' | 'D' | 'S' | 'W' => some (.perlClass c)
  | 'a' => some (.literal '\x07' none)
  | 'f' => some (.literal '\x0c' none)
  | 't' => some (.literal '\t' none)
  | 'n' => some (.literal '\n' none)
  | 'r' => some (.literal '\r' none)
  | 'v' => some (.literal '\x0b' none)
  | 'A' => some (.look .start)
  | 'z' => some (.look .stop)
  | 'B' => some (.look (.notWord (! f.unicode)))
  | '<' => some (.look (.wordStart (! f.unicode)))
  | '>' => some (.look (.wordStop (! f.unicode)))
  | c => if isEscapable c then some (.literal c none) else none

/-- What stands after a backslash. -/
def escape? (f : Flags) : List Char → Option (Primitive × List Char)
  | [] => none
  | c :: rest =>
    match c with
    | 'x' | 'u' | 'U' => hex? f c rest
    | 'p' => unicodeClass? f false rest
    | 'P' => unicodeClass? f true rest
    | 'b' => boundary? f rest
    | c => (escaped? f c).map (·, rest)

/-! ### Literals -/

/-- A literal as a set. Without Unicode a byte beyond ASCII is no character. -/
def literalSet? (f : Flags) (c : Char) (byte : Option Nat) : Option CharSet :=
  let set := CharSet.single c.toNat
  if f.unicode then some (if f.ignoreCase then Unicode.foldCase set else set)
  else if byte.any (0x80 ≤ ·) then none
  else some (if f.ignoreCase then set.foldAscii else set)

/-- What the dot matches: everything but the line ends, or everything. -/
def dotSet (f : Flags) : CharSet :=
  if f.dotNewline then .range 0 CharSet.maxChar
  else if f.anyLineEnd then ⟨[(0, 9), (0x0B, 0x0C), (0x0E, CharSet.maxChar)]⟩
  else ⟨[(0, 9), (0x0B, CharSet.maxChar)]⟩

def primitiveExpr? (f : Flags) : Primitive → Option Expr
  | .literal c byte => (literalSet? f c byte).map .chars
  | .look l => some (.look l)
  | .dot => if f.unicode then some (.chars (dotSet f)) else none
  | .unicodeClass set => some (.chars set)
  | .perlClass letter => (perlSet? f letter).map .chars

end ImportWeb.Pattern.Reader
