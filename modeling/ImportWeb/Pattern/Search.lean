import ImportWeb.Pattern.Program
import ImportWeb.Unicode

/-!
Searching a text with a program. Threads run side by side over the text, the preferred one
first; at each place no instruction runs twice, so the first thread to reach it wins. A match
cuts off the threads behind it, and threads that start further right come last. The outcome
is the leftmost match, and of those the preferred one.
-/

namespace ImportWeb.Pattern

/-- A place in a text: the character before it, and those after it. -/
structure Place where
  index : Nat
  previous : Option Char
  rest : List Char

def Place.next (p : Place) : Option Char := p.rest.head?

def isAsciiWord (c : Char) : Bool := c.isAlphanum || c = '_'

def isWord (ascii : Bool) (c : Char) : Bool :=
  isAsciiWord c || (! ascii && 0x80 ≤ c.toNat && Unicode.word.mem c)

/-- Whether a condition holds at a place. -/
def Look.holds (p : Place) : Look → Bool
  | start => p.index = 0
  | stop => p.rest.isEmpty
  | lineStart => p.index = 0 || p.previous = some '\n'
  | lineStop => p.rest.isEmpty || p.next = some '\n'
  | anyLineStart =>
    p.index = 0 || p.previous = some '\n' || (p.previous = some '\r' && p.next != some '\n')
  | anyLineStop =>
    p.rest.isEmpty || p.next = some '\r' || (p.next = some '\n' && p.previous != some '\r')
  | word ascii => p.previous.any (isWord ascii) != p.next.any (isWord ascii)
  | notWord ascii => p.previous.any (isWord ascii) == p.next.any (isWord ascii)
  | wordStart ascii => ! p.previous.any (isWord ascii) && p.next.any (isWord ascii)
  | wordStop ascii => p.previous.any (isWord ascii) && ! p.next.any (isWord ascii)
  | wordStartHalf ascii => ! p.previous.any (isWord ascii)
  | wordStopHalf ascii => ! p.next.any (isWord ascii)

/-- Where the marked group last opened and last closed. -/
structure Marks where
  opened : Option Nat
  closed : Option Nat
  deriving DecidableEq, Repr, Inhabited

/-- A run of the program: the address of its next instruction and its marks. -/
structure Thread where
  address : Nat
  marks : Marks
  deriving DecidableEq, Repr, Inhabited

/-- Runs threads, the first one first, until each waits for a character or has accepted; an
address that has been `visited` at this place is not run again. -/
def settle (program : Program) (p : Place) (fuel : Nat) (todo : List Thread)
    (visited : List Nat) (done : List Thread) : List Thread :=
  match fuel, todo with
  | 0, _ => done.reverse
  | _ + 1, [] => done.reverse
  | fuel + 1, t :: todo =>
    if visited.contains t.address then settle program p fuel todo visited done
    else
      let visited := t.address :: visited
      match program.inst? t.address with
      | none => settle program p fuel todo visited done
      | some inst =>
        match inst with
        | .chars _ _ => settle program p fuel todo visited (t :: done)
        | .accept => settle program p fuel todo visited (t :: done)
        | .look l next =>
          if l.holds p then settle program p fuel (⟨next, t.marks⟩ :: todo) visited done
          else settle program p fuel todo visited done
        | .opening next =>
          settle program p fuel (⟨next, { t.marks with opened := some p.index }⟩ :: todo) visited done
        | .closing next =>
          settle program p fuel (⟨next, { t.marks with closed := some p.index }⟩ :: todo) visited done
        | .jump next => settle program p fuel (⟨next, t.marks⟩ :: todo) visited done
        | .split first second =>
          settle program p fuel (⟨first, t.marks⟩ :: ⟨second, t.marks⟩ :: todo) visited done

/-- The marks of the first thread that has accepted, and the threads before it. -/
def cut (program : Program) : List Thread → List Thread × Option Marks
  | [] => ([], none)
  | t :: rest =>
    match program.inst? t.address with
    | some .accept => ([], some t.marks)
    | _ =>
      let (before, found) := cut program rest
      (t :: before, found)

/-- The threads that take a character, past it. -/
def step (program : Program) (c : Char) (threads : List Thread) : List Thread :=
  threads.filterMap fun t =>
    match program.inst? t.address with
    | some (.chars set next) => if set.mem c then some ⟨next, t.marks⟩ else none
    | _ => none

/-- Runs threads over the rest of a text, with the best match `found` so far. As long as there
is none, a new thread starts at every place. -/
def searchFrom (program : Program) (found : Option Marks) (threads : List Thread)
    (index : Nat) (previous : Option Char) (rest : List Char) : Option Marks :=
  let threads := if found.isNone then threads ++ [⟨0, ⟨none, none⟩⟩] else threads
  let settled := settle program ⟨index, previous, rest⟩ (threads.length + 2 * program.size + 1)
    threads [] []
  let (live, accepted) := cut program settled
  let found := accepted.or found
  match rest with
  | [] => found
  | c :: rest =>
    if live.isEmpty && found.isSome then found
    else searchFrom program found (step program c live) (index + 1) (some c) rest

/-- The marks of the preferred match in a text. -/
def search (program : Program) (s : List Char) : Option Marks :=
  searchFrom program none [] 0 none s

end ImportWeb.Pattern
