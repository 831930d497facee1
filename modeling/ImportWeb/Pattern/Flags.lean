import ImportWeb.Pattern.CharSet
import ImportWeb.Text.Blank

/-!
The flags of a regular expression: how they change what a pattern means, and how they are
written down. In a verbose pattern blanks and comments mean nothing.
-/

namespace ImportWeb.Pattern

open Text

structure Flags where
  ignoreCase : Bool
  multiLine : Bool
  dotNewline : Bool
  swapGreed : Bool
  unicode : Bool
  anyLineEnd : Bool
  verbose : Bool
  deriving DecidableEq, Repr

def Flags.default : Flags := ⟨false, false, false, false, true, false, false⟩

/-- The code points that classes range over: bytes if Unicode is off. -/
def Flags.limit (f : Flags) : Nat := if f.unicode then CharSet.maxChar else 0xFF

namespace Reader

/-! ### Space and comments -/

/-- What follows blanks and comments, which mean nothing in a verbose pattern. -/
def skipVerbose (inComment : Bool) : List Char → List Char
  | [] => []
  | c :: rest =>
    if inComment then skipVerbose (c != '\n') rest
    else if isBlank c then skipVerbose false rest
    else if c = '#' then skipVerbose true rest
    else c :: rest

def skip (f : Flags) (s : List Char) : List Char := if f.verbose then skipVerbose false s else s

/-! ### Flag letters -/

/-- One flag letter, switched on or off. -/
def setFlag? (f : Flags) (on : Bool) : Char → Option Flags
  | 'i' => some { f with ignoreCase := on }
  | 'm' => some { f with multiLine := on }
  | 's' => some { f with dotNewline := on }
  | 'U' => some { f with swapGreed := on }
  | 'u' => some { f with unicode := on }
  | 'R' => some { f with anyLineEnd := on }
  | 'x' => some { f with verbose := on }
  | _ => none

/-- The flag letters up to a colon or a closing parenthesis, each at most once; those after a
hyphen are switched off. Also tells whether there were any. -/
def flags? (f : Flags) (on : Bool) (seen : List Char) : List Char → Option (Flags × Bool × List Char)
  | [] => none
  | c :: rest =>
    if c = ':' ∨ c = ')' then
      if seen.head? = some '-' then none else some (f, ! seen.isEmpty, c :: rest)
    else if seen.contains c then none
    else if c = '-' then flags? f false (c :: seen) rest
    else
      match setFlag? f on c with
      | some f => flags? f on (c :: seen) rest
      | none => none

end Reader

end ImportWeb.Pattern
