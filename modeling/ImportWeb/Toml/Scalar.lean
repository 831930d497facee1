import ImportWeb.Text.Split
import ImportWeb.Toml

/-!
Reading the scalars of TOML: strings, numbers and dates. A reader takes the characters left
and answers with what it read and the characters after it.
-/

namespace ImportWeb.Toml

/-! ### Characters -/

def isSpace (c : Char) : Bool := c = ' ' || c = '\t'

/-- Characters that may stand in a comment or unescaped in a string: no control characters. -/
def isPlain (c : Char) : Bool := c = '\t' || (0x20 ≤ c.toNat && c.toNat != 0x7F)

def skipSpace (s : List Char) : List Char := s.dropWhile isSpace

/-- What follows a line feed or a carriage return and a line feed. -/
def newline? : List Char → Option (List Char)
  | '\n' :: rest => some rest
  | '\r' :: '\n' :: rest => some rest
  | _ => none

/-- A number sign and the characters up to the end of the line. -/
def comment? : List Char → Option (List Char)
  | '#' :: rest => some (rest.dropWhile isPlain)
  | _ => none

/-- What follows spaces, comments and line breaks. A comment ends in a line break. -/
def skipBlank (fuel : Nat) (s : List Char) : List Char :=
  match fuel with
  | 0 => s
  | fuel + 1 =>
    let s := skipSpace s
    match newline? s with
    | some rest => skipBlank fuel rest
    | none =>
      match (comment? s).bind newline? with
      | some rest => skipBlank fuel rest
      | none => s

def isHex (c : Char) : Bool := c.isDigit || ('a' ≤ c && c ≤ 'f') || ('A' ≤ c && c ≤ 'F')

def hexValue (c : Char) : Nat :=
  if c.isDigit then c.toNat - '0'.toNat
  else if c.isLower then c.toNat - 'a'.toNat + 10
  else c.toNat - 'A'.toNat + 10

/-- Digits in a base, most significant first. -/
def ofDigits (base : Nat) (digits : List Char) : Nat :=
  digits.foldl (fun n c => base * n + hexValue c) 0

/-! ### Strings -/

/-- A character by its number, in so many hexadecimal digits. -/
def unicode? (width : Nat) (s : List Char) : Option (Char × List Char) :=
  let digits := s.take width
  let n := ofDigits 16 digits
  if digits.length = width && digits.all isHex &&
      (n < 0xD800 || (0xE000 ≤ n && n ≤ 0x10FFFF)) then
    some (Char.ofNat n, s.drop width)
  else none

/-- The character of an escape after its backslash. -/
def escape? : List Char → Option (Char × List Char)
  | 'b' :: rest => some ('\x08', rest)
  | 't' :: rest => some ('\t', rest)
  | 'n' :: rest => some ('\n', rest)
  | 'f' :: rest => some ('\x0c', rest)
  | 'r' :: rest => some ('\r', rest)
  | '"' :: rest => some ('"', rest)
  | '\\' :: rest => some ('\\', rest)
  | 'u' :: rest => unicode? 4 rest
  | 'U' :: rest => unicode? 8 rest
  | _ => none

/-- The rest of a basic string after `done`, last character first. -/
def basic? (fuel : Nat) (done s : List Char) : Option (String × List Char) :=
  match fuel, s with
  | fuel + 1, c :: rest =>
    if c = '"' then some (String.ofList done.reverse, rest)
    else if c = '\\' then
      match escape? rest with
      | some (c, rest) => basic? fuel (c :: done) rest
      | none => none
    else if isPlain c then basic? fuel (c :: done) rest
    else none
  | _, _ => none

/-- A literal string, without its opening quote. -/
def literal? (s : List Char) : Option (String × List Char) :=
  let text := s.takeWhile fun c => c != '\'' && isPlain c
  match s.drop text.length with
  | '\'' :: rest => some (String.ofList text, rest)
  | _ => none

/-- What follows spaces and line breaks. -/
def skipLines : List Char → List Char
  | '\n' :: rest => skipLines rest
  | '\r' :: '\n' :: rest => skipLines rest
  | ' ' :: rest => skipLines rest
  | '\t' :: rest => skipLines rest
  | s => s

/-- A backslash at the end of a line takes away the line break and all blanks after it. -/
def lineContinuation? (s : List Char) : Option (List Char) :=
  (newline? (skipSpace s)).map skipLines

/-- The rest of a string in triple quotes after `done`, last character first. Up to two quotes
may stand anywhere in it, also right before the closing ones. -/
def multiline? (quote : Char) (fuel : Nat) (done s : List Char) : Option (String × List Char) :=
  match fuel, s with
  | fuel + 1, c :: rest =>
    if c = quote then
      let quotes := (s.takeWhile (· = quote)).length
      if quotes < 3 then multiline? quote fuel (List.replicate quotes quote ++ done) (s.drop quotes)
      else if 5 < quotes then none
      else
        some (String.ofList (List.replicate (quotes - 3) quote ++ done).reverse, s.drop quotes)
    else if c = '\\' ∧ quote = '"' then
      match lineContinuation? rest with
      | some rest => multiline? quote fuel done rest
      | none =>
        match escape? rest with
        | some (c, rest) => multiline? quote fuel (c :: done) rest
        | none => none
    else
      match newline? s with
      | some rest => multiline? quote fuel ('\n' :: done) rest
      | none => if isPlain c then multiline? quote fuel (c :: done) rest else none
  | _, _ => none

/-- A line break right after the opening quotes does not count. -/
def skipFirstNewline (s : List Char) : List Char := (newline? s).getD s

/-- A string of any of the four kinds. -/
def string? (s : List Char) : Option (String × List Char) :=
  match s with
  | '"' :: '"' :: '"' :: rest => multiline? '"' (rest.length + 1) [] (skipFirstNewline rest)
  | '\'' :: '\'' :: '\'' :: rest => multiline? '\'' (rest.length + 1) [] (skipFirstNewline rest)
  | '"' :: rest => basic? (rest.length + 1) [] rest
  | '\'' :: rest => literal? rest
  | _ => none

/-! ### Numbers -/

/-- Digits with single underscores between them. -/
def digitsFrom (isDigit : Char → Bool) (done : List Char) : List Char → Option (List Char × List Char)
  | '_' :: c :: rest =>
    if isDigit c then digitsFrom isDigit (c :: done) rest else none
  | '_' :: [] => none
  | c :: rest =>
    if isDigit c then digitsFrom isDigit (c :: done) rest else some (done.reverse, c :: rest)
  | [] => some (done.reverse, [])

/-- One digit or more. -/
def digits? (isDigit : Char → Bool) : List Char → Option (List Char × List Char)
  | c :: rest => if isDigit c then digitsFrom isDigit [c] rest else none
  | [] => none

/-- Decimal digits without a leading zero, unless that is all. -/
def wholeDigits? : List Char → Option (List Char × List Char)
  | '0' :: rest => some (['0'], rest)
  | s => digits? Char.isDigit s

/-- An integer of 64 bits. -/
def bounded? (n : Int) : Option Value :=
  if -(Nat.pow 2 63 : Int) ≤ n ∧ n < (Nat.pow 2 63 : Int) then some (.integer n) else none

/-- An integer in a base, after the letter that names it. -/
def based? (base : Nat) (isDigit : Char → Bool) (s : List Char) : Option (Value × List Char) := do
  let (digits, rest) ← digits? isDigit s
  return (← bounded? (ofDigits base digits), rest)

def integer? (s : List Char) : Option (Value × List Char) :=
  match s with
  | '0' :: 'x' :: rest => based? 16 isHex rest
  | '0' :: 'o' :: rest => based? 8 (fun c => '0' ≤ c && c ≤ '7') rest
  | '0' :: 'b' :: rest => based? 2 (fun c => c = '0' || c = '1') rest
  | s => do
    let (negative, s) := Double.readSign s
    let (digits, rest) ← wholeDigits? s
    let n : Int := ofDigits 10 digits
    return (← bounded? (if negative then -n else n), rest)

/-- The digits of an exponent after its letter. -/
def exponent? : List Char → Option (Option Int × List Char)
  | c :: s =>
    if c = 'e' ∨ c = 'E' then do
      let (negative, s) := Double.readSign s
      let (digits, rest) ← digits? Char.isDigit s
      let n : Int := ofDigits 10 digits
      return (some (if negative then -n else n), rest)
    else some (none, c :: s)
  | [] => some (none, [])

/-- A name for a number that has no digits. -/
def specialFloat? (s : List Char) : Option (Value × List Char) :=
  let (negative, s) := Double.readSign s
  match Text.dropPrefix? "inf".toList s with
  | some rest => some (.float (.infinite negative), rest)
  | none => (Text.dropPrefix? "nan".toList s).map fun rest => (.float .nan, rest)

/-- Whether a number begins like one with a fraction or an exponent. -/
def isFloat (s : List Char) : Bool :=
  match wholeDigits? (Double.readSign s).2 with
  | some (_, '.' :: rest) => (digits? Char.isDigit rest).isSome
  | some (_, c :: rest) => (c = 'e' || c = 'E') && (exponent? (c :: rest)).isSome
  | _ => false

/-- A number with a fraction, an exponent or both. It must not be too large. -/
def float? (s : List Char) : Option (Value × List Char) := do
  let (negative, s) := Double.readSign s
  let (whole, s) ← wholeDigits? s
  let (fraction, s) ← match s with
    | '.' :: rest => digits? Char.isDigit rest
    | s => some ([], s)
  let (exponent, rest) ← exponent? s
  let x := Double.ofDecimal negative (ofDigits 10 (whole ++ fraction))
    (exponent.getD 0 - fraction.length)
  if x = .infinite false then none else some (.float x, rest)

/-! ### Dates and times -/

/-- A number of exactly so many digits. -/
def fixedDigits? (width : Nat) (s : List Char) : Option (Nat × List Char) :=
  let digits := s.take width
  if digits.length = width && digits.all Char.isDigit then some (ofDigits 10 digits, s.drop width)
  else none

/-- What reading a date or a time came to: it is none, it is a wrong one, or it ended here. -/
inductive Dated where
  | absent
  | wrong
  | done (rest : List Char)

def daysIn (year month : Nat) : Nat :=
  if month = 2 then
    if year % 4 = 0 ∧ (year % 100 ≠ 0 ∨ year % 400 = 0) then 29 else 28
  else if month = 4 ∨ month = 6 ∨ month = 9 ∨ month = 11 then 30
  else 31

/-- A month and a day, after the year and a hyphen. -/
def monthDay? (year : Nat) (s : List Char) : Option (List Char) := do
  let (month, s) ← fixedDigits? 2 s
  let s ← Text.dropPrefix? ['-'] s
  let (day, rest) ← fixedDigits? 2 s
  if 1 ≤ month ∧ month ≤ 12 ∧ 1 ≤ day ∧ day ≤ 31 ∧ day ≤ daysIn year month then some rest
  else none

/-- Minutes and seconds with a fraction, after the hour and a colon. -/
def minuteSecond? (s : List Char) : Option (List Char) := do
  let (minute, s) ← fixedDigits? 2 s
  let s ← Text.dropPrefix? [':'] s
  let (second, s) ← fixedDigits? 2 s
  if 59 < minute ∨ 60 < second then none
  else
    match s with
    | '.' :: rest =>
      let fraction := rest.takeWhile Char.isDigit
      if fraction.isEmpty then some s else some (rest.drop fraction.length)
    | s => some s

def time (s : List Char) : Dated :=
  match fixedDigits? 2 s with
  | some (hour, ':' :: rest) =>
    if 23 < hour then .absent
    else
      match minuteSecond? rest with
      | some rest => .done rest
      | none => .wrong
  | _ => .absent

/-- An offset from universal time, which may be missing. -/
def offset (s : List Char) : Dated :=
  match s with
  | 'Z' :: rest => .done rest
  | 'z' :: rest => .done rest
  | c :: rest =>
    if c = '+' ∨ c = '-' then
      match fixedDigits? 2 rest with
      | some (hour, ':' :: rest) =>
        match fixedDigits? 2 rest with
        | some (minute, rest) => if hour ≤ 23 ∧ minute ≤ 59 then .done rest else .wrong
        | none => .wrong
      | _ => .wrong
    else .done s
  | [] => .done s

/-- A date, a time of day, or a date with a time and possibly an offset. -/
def datetime (s : List Char) : Dated :=
  match fixedDigits? 4 s with
  | some (year, '-' :: rest) =>
    match monthDay? year rest with
    | none => .wrong
    | some (c :: rest) =>
      if c = 'T' ∨ c = 't' ∨ c = ' ' then
        match time rest with
        | .absent => .done (c :: rest)
        | .wrong => .wrong
        | .done rest => offset rest
      else .done (c :: rest)
    | some [] => .done []
  | _ => time s

/-- A value that begins with a sign or a digit. -/
def numeric? (s : List Char) : Option (Value × List Char) :=
  match datetime s with
  | .wrong => none
  | .done rest => some (.datetime, rest)
  | .absent =>
    if isFloat s then float? s
    else
      match specialFloat? s with
      | some v => some v
      | none => integer? s

end ImportWeb.Toml
