import ImportWeb.Pattern.Bracket
import ImportWeb.Text.Decimal

/-!
Reading regular expressions: groups, repetitions and choices. Expressions come with the depth
of their nesting, which is limited.
-/

namespace ImportWeb.Pattern

open Text

namespace Reader

/-! ### Groups and repetitions -/

def isNameStart (c : Char) : Bool := c = '_' || Unicode.isAlphabetic c

def isNameChar (c : Char) : Bool :=
  c = '_' || c = '.' || c = '[' || c = ']' || Unicode.isAlphabetic c || Unicode.isNumeric c

/-- A group's name up to its closing angle bracket. -/
def groupName? (s : List Char) : Option (List Char × List Char) :=
  let name := s.takeWhile (· != '>')
  match name, s.drop name.length with
  | c :: rest, _ :: after =>
    if isNameStart c && rest.all isNameChar then some (name, after) else none
  | _, _ => none

/-- A number with blanks around it, below `2 ^ 32`. -/
def count? (f : Flags) (s : List Char) : Option (Nat × List Char) :=
  let rec digits (fuel : Nat) (done s : List Char) : List Char × List Char :=
    match fuel, s with
    | fuel + 1, c :: rest =>
      if c.isDigit then digits fuel (c :: done) (skip f rest) else (done.reverse, s)
    | _, s => (done.reverse, s)
  let rec blanks (fuel : Nat) (s : List Char) : List Char :=
    match fuel, s with
    | fuel + 1, c :: rest => if isBlank c then blanks fuel (skip f rest) else s
    | _, s => s
  let s := trimStart s
  let (number, rest) := digits (s.length + 1) [] s
  if number.isEmpty || Nat.pow 2 32 ≤ ofDecimal number then none
  else some (ofDecimal number, blanks (rest.length + 1) rest)

/-- The closing brace of a counted repetition. -/
def closeBounds? (f : Flags) (min : Nat) (max : Option Nat) :
    List Char → Option (Nat × Option Nat × List Char)
  | '\x7d' :: rest => some (min, max, skip f rest)
  | _ => none

/-- The upper bound of a counted repetition, if there is one after the comma. -/
def upperBound? (f : Flags) (min : Nat) (s : List Char) : Option (Nat × Option Nat × List Char) :=
  match s with
  | '\x7d' :: rest => some (min, none, skip f rest)
  | s => do
    let (max, s) ← count? f s
    if min ≤ max then closeBounds? f min (some max) s else none

/-- The bounds of a counted repetition after its opening brace. -/
def bounds? (f : Flags) (s : List Char) : Option (Nat × Option Nat × List Char) := do
  let (min, s) ← count? f (skip f s)
  match s with
  | ',' :: rest => upperBound? f min (skip f rest)
  | s => closeBounds? f min (some min) s

/-! ### Expressions -/

/-- An item of a branch: an expression with its depth, or a change of flags, which cannot be
repeated. -/
inductive Item where
  | expr (e : Expr) (depth : Nat)
  | flags

/-- A group that is still open: the branches before, the items of the current one, last first,
and what comes back into force when it closes. -/
structure OpenGroup where
  name : Option (List Char)
  outerFlags : Flags
  branches : List (Expr × Nat)
  items : List Item

/-- How deep groups, classes, sequences and choices may nest in each other. -/
def maxDepth : Nat := 250

namespace OpenGroup

def exprs (items : List Item) : List (Expr × Nat) :=
  items.filterMap fun
    | .expr e depth => some (e, depth)
    | .flags => none

def deepest (es : List (Expr × Nat)) : Nat := es.foldl (fun d e => max d e.2) 0

/-- The current branch as one expression; several items are a level. -/
def branch (g : OpenGroup) : Expr × Nat :=
  let es := exprs g.items.reverse
  let depth := deepest es
  (.concat (es.map (·.1)), if g.items.length < 2 then depth else depth + 1)

/-- All branches as one expression; several of them are a level. -/
def close (g : OpenGroup) : Expr × Nat :=
  let es := (g.branch :: g.branches).reverse
  let depth := deepest es
  (.choice (es.map (·.1)), if es.length < 2 then depth else depth + 1)

def push (g : OpenGroup) (e : Expr) (depth : Nat) : OpenGroup :=
  { g with items := .expr e depth :: g.items }

def nextBranch (g : OpenGroup) : OpenGroup :=
  { g with branches := g.branch :: g.branches, items := [] }

/-- Repeats the last item. -/
def repeatLast? (g : OpenGroup) (greedy : Bool) (min : Nat) (max : Option Nat) :
    Option OpenGroup :=
  match g.items with
  | .expr e depth :: rest =>
    some { g with items := .expr (e.repeated greedy min max) (depth + 1) :: rest }
  | _ => none

end OpenGroup

/-- A question mark after a repetition makes it lazy; the flags may swap the two. -/
def greed (f : Flags) : List Char → Bool × List Char
  | '?' :: rest => (f.swapGreed, rest)
  | rest => (! f.swapGreed, rest)

/-- What an opening parenthesis starts: a group with its flags, or a change of flags. -/
inductive Opening where
  | capture (name : Option (List Char))
  | plain (inner : Flags)
  | change (flags : Flags)

/-- The flags of a plain group, or a change of flags. -/
def flagOpening? (f : Flags) (s : List Char) : Option (Opening × List Char) := do
  let (inner, changed, rest) ← flags? f true [] s
  match rest with
  | [] => none
  | c :: rest =>
    if c = ':' then some (.plain inner, rest)
    else if changed then some (.change inner, rest)
    else none

/-- What stands after a question mark; signs that are no names have no meaning. -/
def specialOpening? (f : Flags) : List Char → Option (Opening × List Char)
  | 'P' :: '<' :: rest => (groupName? rest).map fun (name, rest) => (.capture (some name), rest)
  | '<' :: rest => (groupName? rest).map fun (name, rest) => (.capture (some name), rest)
  | rest => flagOpening? f rest

def opening? (f : Flags) (s : List Char) : Option (Opening × List Char) :=
  match skip f s with
  | '?' :: rest => specialOpening? f rest
  | rest => some (.capture none, rest)

def lineStart (f : Flags) : Look :=
  if f.multiLine then (if f.anyLineEnd then .anyLineStart else .lineStart) else .start

def lineStop (f : Flags) : Look :=
  if f.multiLine then (if f.anyLineEnd then .anyLineStop else .lineStop) else .stop

/-- How far a pattern has been read: the flags in force, the names taken, the innermost open
group, the ones around it, and the characters left. -/
structure State where
  flags : Flags
  names : List (List Char)
  group : OpenGroup
  outer : List OpenGroup
  rest : List Char

namespace State

/-- Nothing is read yet, and only the whole pattern is open. -/
def start (s : List Char) : State := ⟨.default, [], ⟨none, .default, [], []⟩, [], s⟩

def push (st : State) (e : Expr) (depth : Nat) (rest : List Char) : State :=
  { st with group := st.group.push e depth, rest := rest }

def repeatLast? (st : State) (min : Nat) (max : Option Nat) (rest : List Char) : Option State := do
  let (greedy, rest) := greed st.flags rest
  return { st with group := ← st.group.repeatLast? greedy min max, rest := rest }

/-- Opens a group, in which other flags may be in force. -/
def enter (st : State) (name : Option (List Char)) (inner : Flags) (rest : List Char) : State :=
  ⟨inner, st.names, ⟨name, st.flags, [], []⟩, st.group :: st.outer, rest⟩

def open? (st : State) (rest : List Char) : Opening → Option State
  | .capture (some name) =>
    if st.names.contains name then none
    else some { st.enter (some name) st.flags rest with names := name :: st.names }
  | .capture none => some (st.enter none st.flags rest)
  | .plain inner => some (st.enter none inner rest)
  | .change flags =>
    some { st with flags := flags, group.items := .flags :: st.group.items, rest := rest }

/-- Closes the innermost group, if it is not the whole pattern. -/
def close? (st : State) (rest : List Char) : Option State :=
  match st.outer with
  | [] => none
  | parent :: outer =>
    let (e, depth) := st.group.close
    some ⟨st.group.outerFlags, st.names, parent.push (.group st.group.name e) (depth + 1), outer,
      rest⟩

/-- Reads one item, given its first character and what follows that. -/
def item? (st : State) (c : Char) (rest : List Char) : Option State :=
  let f := st.flags
  match c with
  | '(' => do
    let (opening, rest) ← opening? f rest
    st.open? rest opening
  | ')' => st.close? rest
  | '|' => some { st with group := st.group.nextBranch, rest := rest }
  | '[' => do
    let (c, rest) ← openClass? f rest
    let (set, depth, rest) ← class? f (rest.length + 1) c [] rest
    return st.push (.chars set) depth rest
  | '?' => st.repeatLast? 0 (some 1) rest
  | '*' => st.repeatLast? 0 none rest
  | '+' => st.repeatLast? 1 none rest
  | '\x7b' => do
    let (min, max, rest) ← bounds? f rest
    st.repeatLast? min max rest
  | '\\' => do
    let (p, rest) ← escape? f rest
    return st.push (← primitiveExpr? f p) 0 rest
  | '.' => do return st.push (← primitiveExpr? f .dot) 0 rest
  | '^' => some (st.push (.look (lineStart f)) 0 rest)
  | '$' => some (st.push (.look (lineStop f)) 0 rest)
  | c => do return st.push (← primitiveExpr? f (.literal c none)) 0 rest

end State

/-- The whole pattern as one expression with its depth. -/
def pattern? (fuel : Nat) (st : State) : Option (Expr × Nat) :=
  match fuel with
  | 0 => none
  | fuel + 1 =>
    match skip st.flags st.rest with
    | [] => if st.outer.isEmpty then some st.group.close else none
    | c :: rest => (st.item? c rest).bind (pattern? fuel)

end Reader

/-- The expression that a pattern text stands for, with its depth. -/
def Expr.read? (s : List Char) : Option (Expr × Nat) := Reader.pattern? (s.length + 1) (.start s)

/-- The expression that a pattern text stands for, if it is neither too deep nor too large. -/
def Expr.ofText? (s : List Char) : Option Expr := do
  let (e, depth) ← Expr.read? s
  if depth ≤ Reader.maxDepth ∧ e.size ≤ Expr.maxSize then some e else none

end ImportWeb.Pattern
