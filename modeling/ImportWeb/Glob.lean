/-!
Glob patterns for leaving files out. A star stands for any text, also across slashes; two
stars are a whole component and stand for any components. A pattern is wrong if its stars or
its brackets are.
-/

namespace ImportWeb

namespace Glob

/-- One character of a class, or a range of them. -/
abbrev CharRange := Char × Char

inductive Token where
  | char (c : Char)
  | anyChar
  | oneOf (negated : Bool) (ranges : List CharRange)
  | anyText
  | anyComponents
  deriving DecidableEq, Repr

end Glob

structure Glob where
  tokens : List Glob.Token
  deriving DecidableEq, Repr

namespace Glob

/-- The ranges in a class: two characters with a hyphen between them, or one alone. -/
def ranges : List Char → List CharRange
  | a :: '-' :: b :: rest => (a, b) :: ranges rest
  | a :: rest => (a, a) :: ranges rest
  | [] => []

/-- A class after its opening bracket. Its first character may be a closing bracket. -/
def class? (s : List Char) : Option (Token × List Char) :=
  let (negated, s) := match s with
    | '!' :: rest => (true, rest)
    | rest => (false, rest)
  match s with
  | [] => none
  | first :: rest =>
    let more := rest.takeWhile (· != ']')
    match rest.drop more.length with
    | [] => none
    | _ :: after => some (.oneOf negated (ranges (first :: more)), after)

/-- Appends the token of two stars; of several in a row only the first two count. -/
def addComponents (done : List Token) : List Token :=
  match done with
  | .anyComponents :: _ :: _ => done
  | _ => .anyComponents :: done

/-- Reads tokens after those `done`, last first; `previous` is the character before. -/
def tokensFrom? (fuel : Nat) (previous : Option Char) (done : List Token) (s : List Char) :
    Option (List Token) :=
  match fuel, s with
  | 0, _ => none
  | _ + 1, [] => some done.reverse
  | fuel + 1, c :: rest =>
    if c = '?' then tokensFrom? fuel (some c) (.anyChar :: done) rest
    else if c = '*' then
      let after := rest.dropWhile (· = '*')
      match rest.length - after.length with
      | 0 => tokensFrom? fuel (some c) (.anyText :: done) rest
      | 1 =>
        if previous.all (· = '/') then
          match after with
          | [] => tokensFrom? fuel (some c) (addComponents done) []
          | '/' :: after => tokensFrom? fuel (some '/') (addComponents done) after
          | _ => none
        else none
      | _ => none
    else if c = '[' then
      match class? rest with
      | some (t, rest) => tokensFrom? fuel (some ']') (t :: done) rest
      | none => none
    else tokensFrom? fuel (some c) (.char c :: done) rest

/-- The pattern of a text; none if it is wrong. -/
def ofText? (s : List Char) : Option Glob := (tokensFrom? (s.length + 1) none [] s).map Glob.mk

/-- All ends of a text, the longest first. -/
def tails : List Char → List (List Char)
  | [] => [[]]
  | c :: rest => (c :: rest) :: tails rest

/-- What may be left of a text after some components of it. -/
def afterSlashes : List Char → List (List Char)
  | [] => [[]]
  | c :: rest => if c = '/' then rest :: afterSlashes rest else afterSlashes rest

def inRanges (rs : List CharRange) (c : Char) : Bool := rs.any fun r => r.1 ≤ c && c ≤ r.2

/-- Whether a token stands for a single character. -/
def Token.has : Token → Char → Bool
  | char d, c => c = d
  | anyChar, _ => true
  | oneOf negated rs, c => inRanges rs c != negated
  | anyText, _ => false
  | anyComponents, _ => false

/-- What may be left of a text after a token has taken its part. -/
def Token.after (t : Token) (s : List Char) : List (List Char) :=
  match t, s with
  | anyText, s => tails s
  | anyComponents, s => s :: afterSlashes s
  | _, [] => []
  | t, c :: rest => if t.has c then [rest] else []

/-- What may be left of a text after all tokens. -/
def remainders (tokens : List Token) (s : List Char) : List (List Char) :=
  tokens.foldl (fun rests t => (rests.flatMap t.after).eraseDups) [s]

def isMatch (g : Glob) (s : List Char) : Bool := (remainders g.tokens s).any List.isEmpty

end Glob

end ImportWeb
