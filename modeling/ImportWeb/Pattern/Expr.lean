import ImportWeb.Pattern.CharSet

/-!
Regular expressions. The loops are an optional part, one turn or more, and any number of turns,
the latter only around expressions that take at least one character each turn; a number of
turns may be exact or a limit. The memory of an expression bounds the program it turns into.
-/

namespace ImportWeb.Pattern

/-- A condition on a place between two characters. -/
inductive Look where
  | start
  | stop
  | lineStart
  | lineStop
  /-- Line ends that may be a line feed, a carriage return or both. -/
  | anyLineStart
  | anyLineStop
  | word (ascii : Bool)
  | notWord (ascii : Bool)
  | wordStart (ascii : Bool)
  | wordStop (ascii : Bool)
  | wordStartHalf (ascii : Bool)
  | wordStopHalf (ascii : Bool)
  deriving DecidableEq, Repr, Inhabited

inductive Expr where
  | empty
  | chars (set : CharSet)
  | look (l : Look)
  | group (name : Option (List Char)) (e : Expr)
  | cat (first second : Expr)
  | alt (first second : Expr)
  | opt (greedy : Bool) (e : Expr)
  | plus (greedy : Bool) (e : Expr)
  | star (greedy : Bool) (e : Expr)
  /-- A number of turns. -/
  | times (n : Nat) (e : Expr)
  /-- At most a number of turns. -/
  | upTo (greedy : Bool) (n : Nat) (e : Expr)
  deriving Repr, Inhabited

namespace Expr

/-- Whether every match takes a character. -/
def consumes : Expr → Bool
  | empty => false
  | chars _ => true
  | look _ => false
  | group _ e => e.consumes
  | cat a b => a.consumes || b.consumes
  | alt a b => a.consumes && b.consumes
  | opt _ _ => false
  | plus _ e => e.consumes
  | star _ _ => false
  | times n e => n != 0 && e.consumes
  | upTo _ _ _ => false

/-- Whether a group of this name is left in the expression. -/
def hasGroup (name : List Char) : Expr → Bool
  | empty => false
  | chars _ => false
  | look _ => false
  | group n e => n = some name || e.hasGroup name
  | cat a b => a.hasGroup name || b.hasGroup name
  | alt a b => a.hasGroup name || b.hasGroup name
  | opt _ e => e.hasGroup name
  | plus _ e => e.hasGroup name
  | star _ e => e.hasGroup name
  | times _ e => e.hasGroup name
  | upTo _ _ e => e.hasGroup name

/-- Exactly `n` turns. -/
def exactly (e : Expr) (n : Nat) : Expr := if n = 1 then e else times n e

/-- At most `n` turns. -/
def atMost (greedy : Bool) (e : Expr) (n : Nat) : Expr :=
  if n = 1 then opt greedy e else upTo greedy n e

/-- Between `min` and `max` turns, or any number from `min` on. A part that may never be taken
goes away together with the groups in it. -/
def repeated (greedy : Bool) (e : Expr) (min : Nat) (max : Option Nat) : Expr :=
  match min, max with
  | _, some 0 => empty
  | 0, none => if e.consumes then star greedy e else opt greedy (plus greedy e)
  | 1, none => plus greedy e
  | n, none => cat (e.exactly (n - 1)) (plus greedy e)
  | 0, some m => e.atMost greedy m
  | n, some m => if n = m then e.exactly n else cat (e.exactly n) (e.atMost greedy (m - n))

def concat : List Expr → Expr
  | [] => empty
  | [e] => e
  | e :: rest => cat e (concat rest)

def choice : List Expr → Expr
  | [] => empty
  | [e] => e
  | e :: rest => alt e (choice rest)

/-! ### Memory

An expression is refused when the program that it is compiled to would take too much memory. The
sizes below estimate that program state by state, without making it, so an expression close to the
limit may be taken here and refused by the compiler, or the other way round. -/

/-- What one state takes, by estimate. -/
def stateSize : Nat := 32

/-- An estimate of the memory of a state that takes a character of a set. Characters beyond ASCII
take several bytes, and so several states. -/
def setSize (s : CharSet) : Nat :=
  let ranges := ((s.complement CharSet.maxChar).complement CharSet.maxChar).ranges
  match ranges with
  | [(lo, hi)] =>
    if lo = hi then stateSize * (Char.ofNat lo).utf8Size
    else if hi < 0x80 then 2 * stateSize else 400
  | _ => if s.isAscii then 2 * stateSize + 8 * ranges.length else 400 + 64 * ranges.length

/-- An estimate of the memory of the states of an expression. -/
def size : Expr → Nat
  | empty => stateSize
  | chars set => setSize set
  | look _ => stateSize
  | group _ e => 2 * stateSize + e.size
  | cat a b => a.size + b.size
  | alt a b => a.size + b.size + 2 * stateSize
  | opt _ e => 2 * stateSize + e.size
  | plus _ e => stateSize + e.size
  | star _ e => stateSize + e.size
  | times n e => stateSize + n * e.size
  | upTo _ n e => stateSize + n * (stateSize + e.size)

/-- The most memory that a program may take. -/
def maxSize : Nat := 10 * Nat.pow 2 20

end Expr

end ImportWeb.Pattern
