import ImportWeb.Double

/-!
JSON values and their two written forms: compact, and spread over lines with two spaces per
level. The fields of an object keep their order.
-/

namespace ImportWeb

inductive Json where
  | null
  | bool (b : Bool)
  | integer (n : Int)
  | real (x : Double)
  | string (s : String)
  | array (items : List Json)
  | object (fields : List (String × Json))
  deriving Repr, Inhabited

namespace Json

def hexDigit (n : Nat) : Char := (Nat.digitChar n)

/-- How one character is written inside quotes. -/
def escapeChar (c : Char) : List Char :=
  if c = '"' then ['\\', '"']
  else if c = '\\' then ['\\', '\\']
  else if c = '\x08' then ['\\', 'b']
  else if c = '\x0c' then ['\\', 'f']
  else if c = '\n' then ['\\', 'n']
  else if c = '\r' then ['\\', 'r']
  else if c = '\t' then ['\\', 't']
  else if c.toNat < 0x20 then
    ['\\', 'u', '0', '0', hexDigit (c.toNat / 16), hexDigit (c.toNat % 16)]
  else [c]

def quoted (s : String) : List Char := '"' :: s.toList.flatMap escapeChar ++ ['"']

def integerChars (n : Int) : List Char :=
  if n < 0 then '-' :: Text.decimal n.natAbs else Text.decimal n.natAbs

/-- A number without a finite value has no form of its own and is written as null. -/
def realChars (x : Double) : List Char := x.text?.getD "null".toList

mutual

def compact : Json → List Char
  | null => "null".toList
  | bool true => "true".toList
  | bool false => "false".toList
  | integer n => integerChars n
  | real x => realChars x
  | string s => quoted s
  | array [] => ['[', ']']
  | array (item :: rest) => '[' :: (compact item ++ compactItems rest)
  | object [] => ['{', '}']
  | object ((key, value) :: rest) =>
    '{' :: (quoted key ++ ':' :: (compact value ++ compactFields rest))

/-- The items after the first, up to the closing bracket. -/
def compactItems : List Json → List Char
  | [] => [']']
  | item :: rest => ',' :: (compact item ++ compactItems rest)

/-- The fields after the first, up to the closing brace. -/
def compactFields : List (String × Json) → List Char
  | [] => ['}']
  | (key, value) :: rest =>
    ',' :: (quoted key ++ ':' :: (compact value ++ compactFields rest))

end

/-- A line break and the indentation of a level. -/
def newline (level : Nat) : List Char := '\n' :: List.replicate (2 * level) ' '

mutual

def pretty (level : Nat) : Json → List Char
  | null => "null".toList
  | bool true => "true".toList
  | bool false => "false".toList
  | integer n => integerChars n
  | real x => realChars x
  | string s => quoted s
  | array [] => ['[', ']']
  | array (item :: rest) =>
    '[' :: (newline (level + 1) ++ pretty (level + 1) item ++ prettyItems level rest)
  | object [] => ['{', '}']
  | object ((key, value) :: rest) =>
    '{' :: (newline (level + 1) ++ quoted key ++ ':' :: ' ' :: pretty (level + 1) value ++
      prettyFields level rest)

/-- The items after the first, up to the closing bracket on a line of its own. -/
def prettyItems (level : Nat) : List Json → List Char
  | [] => newline level ++ [']']
  | item :: rest =>
    ',' :: (newline (level + 1) ++ pretty (level + 1) item ++ prettyItems level rest)

/-- The fields after the first, up to the closing brace on a line of its own. -/
def prettyFields (level : Nat) : List (String × Json) → List Char
  | [] => newline level ++ ['}']
  | (key, value) :: rest =>
    ',' :: (newline (level + 1) ++ quoted key ++ ':' :: ' ' :: pretty (level + 1) value ++
      prettyFields level rest)

end

def prettyText (j : Json) : String := String.ofList (j.pretty 0)

/-! ### Looking inside -/

/-- The value of a field; the last one counts if there are several. -/
def field? (key : String) : Json → Option Json
  | object fields => (fields.reverse.find? fun field => field.1 == key).map (·.2)
  | _ => none

def string? : Json → Option String
  | string s => some s
  | _ => none

def bool? : Json → Option Bool
  | bool b => some b
  | _ => none

def array? : Json → Option (List Json)
  | array items => some items
  | _ => none

/-- A natural number below a bound. -/
def natBelow? (bound : Nat) : Json → Option Nat
  | integer n => if 0 ≤ n ∧ n < bound then some n.toNat else none
  | _ => none

end Json

end ImportWeb
