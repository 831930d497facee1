import ImportWeb.Json
import ImportWeb.Text.Split

/-!
Reading JSON. Every reader takes the characters left and answers with what it read and the
characters after it.
-/

namespace ImportWeb.Json

def isSpace (c : Char) : Bool := c = ' ' || c = '\n' || c = '\r' || c = '\t'

def skipSpace (s : List Char) : List Char := s.dropWhile isSpace

/-- The value of a hexadecimal digit. -/
def hexValue? (c : Char) : Option Nat :=
  if '0' ≤ c ∧ c ≤ '9' then some (c.toNat - '0'.toNat)
  else if 'a' ≤ c ∧ c ≤ 'f' then some (c.toNat - 'a'.toNat + 10)
  else if 'A' ≤ c ∧ c ≤ 'F' then some (c.toNat - 'A'.toNat + 10)
  else none

def readHex4? : List Char → Option (Nat × List Char)
  | a :: b :: c :: d :: rest => do
    let n := (((← hexValue? a) * 16 + (← hexValue? b)) * 16 + (← hexValue? c)) * 16 +
      (← hexValue? d)
    return (n, rest)
  | _ => none

/-- The character of a unicode escape after its `u`; characters beyond the first plane are
written as a pair of surrogates. -/
def readUnicode? (s : List Char) : Option (Char × List Char) := do
  let (n, rest) ← readHex4? s
  if 0xD800 ≤ n ∧ n < 0xDC00 then
    match rest with
    | '\\' :: 'u' :: rest =>
      let (low, rest) ← readHex4? rest
      if 0xDC00 ≤ low ∧ low < 0xE000 then
        return (Char.ofNat (0x10000 + (n - 0xD800) * 0x400 + (low - 0xDC00)), rest)
      else none
    | _ => none
  else if 0xDC00 ≤ n ∧ n < 0xE000 then none
  else return (Char.ofNat n, rest)

/-- The characters up to the closing quote, after those in `done`, last first. -/
def readString? (fuel : Nat) (done : List Char) (s : List Char) : Option (String × List Char) :=
  match fuel, s with
  | 0, _ => none
  | _ + 1, [] => none
  | fuel + 1, c :: rest =>
    if c = '"' then some (String.ofList done.reverse, rest)
    else if c = '\\' then
      match rest with
      | '"' :: rest => readString? fuel ('"' :: done) rest
      | '\\' :: rest => readString? fuel ('\\' :: done) rest
      | '/' :: rest => readString? fuel ('/' :: done) rest
      | 'b' :: rest => readString? fuel ('\x08' :: done) rest
      | 'f' :: rest => readString? fuel ('\x0c' :: done) rest
      | 'n' :: rest => readString? fuel ('\n' :: done) rest
      | 'r' :: rest => readString? fuel ('\r' :: done) rest
      | 't' :: rest => readString? fuel ('\t' :: done) rest
      | 'u' :: rest =>
        match readUnicode? rest with
        | some (c, rest) => readString? fuel (c :: done) rest
        | none => none
      | _ => none
    else if c.toNat < 0x20 then none
    else readString? fuel (c :: done) rest

/-- An exponent part, zero if there is none. -/
def readExponent? : List Char → Option (Int × List Char)
  | c :: rest =>
    if c = 'e' ∨ c = 'E' then
      let (negative, rest) := match rest with
        | '-' :: rest => (true, rest)
        | '+' :: rest => (false, rest)
        | rest => (false, rest)
      let digits := rest.takeWhile Char.isDigit
      if digits.isEmpty then none
      else
        let n : Int := Text.ofDecimal digits
        some (if negative then -n else n, rest.drop digits.length)
    else some (0, c :: rest)
  | [] => some (0, [])

/-- A number. Without a fraction and an exponent it is an integer, unless it is minus zero. -/
def readNumber? (s : List Char) : Option (Json × List Char) := do
  let (negative, s) := match s with
    | '-' :: rest => (true, rest)
    | rest => (false, rest)
  let whole := s.takeWhile Char.isDigit
  let s := s.drop whole.length
  if whole.isEmpty then none
  else if whole.head? = some '0' ∧ whole.length ≠ 1 then none
  else
    let (fraction, s) ← match s with
      | '.' :: rest =>
        let fraction := rest.takeWhile Char.isDigit
        if fraction.isEmpty then none else some (some fraction, rest.drop fraction.length)
      | rest => some (none, rest)
    let (exponent, rest) ← readExponent? s
    if fraction.isNone ∧ rest.length = s.length ∧ ¬ (negative ∧ Text.ofDecimal whole = 0) then
      let n : Int := Text.ofDecimal whole
      return (integer (if negative then -n else n), rest)
    else
      let digits := fraction.getD []
      return (real (.ofDecimal negative (Text.ofDecimal (whole ++ digits))
        (exponent - digits.length)), rest)

mutual

def readValue? (fuel : Nat) (s : List Char) : Option (Json × List Char) :=
  match fuel with
  | 0 => none
  | fuel + 1 =>
    match s with
    | '"' :: rest => (readString? (rest.length + 1) [] rest).map fun (text, rest) => (string text, rest)
    | '[' :: rest =>
      match skipSpace rest with
      | ']' :: rest => some (array [], rest)
      | rest => (readItems? fuel rest).map fun (items, rest) => (array items, rest)
    | '{' :: rest =>
      match skipSpace rest with
      | '}' :: rest => some (object [], rest)
      | rest => (readFields? fuel rest).map fun (fields, rest) => (object fields, rest)
    | 'n' :: rest => (Text.dropPrefix? "ull".toList rest).map (null, ·)
    | 't' :: rest => (Text.dropPrefix? "rue".toList rest).map (bool true, ·)
    | 'f' :: rest => (Text.dropPrefix? "alse".toList rest).map (bool false, ·)
    | rest => readNumber? rest

/-- One item or more, up to the closing bracket. -/
def readItems? (fuel : Nat) (s : List Char) : Option (List Json × List Char) :=
  match fuel with
  | 0 => none
  | fuel + 1 => do
    let (item, rest) ← readValue? fuel s
    match skipSpace rest with
    | ',' :: rest =>
      let (items, rest) ← readItems? fuel (skipSpace rest)
      return (item :: items, rest)
    | ']' :: rest => return ([item], rest)
    | _ => none

/-- One field or more, up to the closing brace. -/
def readFields? (fuel : Nat) (s : List Char) : Option (List (String × Json) × List Char) :=
  match fuel with
  | 0 => none
  | fuel + 1 => do
    match s with
    | '"' :: rest =>
      let (key, rest) ← readString? (rest.length + 1) [] rest
      match skipSpace rest with
      | ':' :: rest =>
        let (value, rest) ← readValue? fuel (skipSpace rest)
        match skipSpace rest with
        | ',' :: rest =>
          let (fields, rest) ← readFields? fuel (skipSpace rest)
          return ((key, value) :: fields, rest)
        | '}' :: rest => return ([(key, value)], rest)
        | _ => none
      | _ => none
    | _ => none

end

/-- The value that a whole text holds. -/
def parse? (s : List Char) : Option Json := do
  let (value, rest) ← readValue? (2 * s.length + 1) (skipSpace s)
  if (skipSpace rest).isEmpty then some value else none

end ImportWeb.Json
