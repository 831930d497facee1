import ImportWeb.Pattern.Escape

/-!
Classes in brackets. They nest, and two of them, or the items on two sides, may be intersected
or taken from each other. A class comes with the depth of its nesting.
-/

namespace ImportWeb.Pattern.Reader

inductive SetOp where
  | inter
  | diff
  | symmDiff

def SetOp.apply (f : Flags) (op : SetOp) (s t : CharSet) : CharSet :=
  let fold := fun s : CharSet =>
    if f.ignoreCase then (if f.unicode then Unicode.foldCase s else s.foldAscii) else s
  match op with
  | .inter => (fold s).inter f.limit (fold t)
  | .diff => (fold s).diff f.limit (fold t)
  | .symmDiff => (fold s).symmDiff f.limit (fold t)

/-- An open bracket: the sets before the last operation, that operation, and the items since. -/
structure OpenClass where
  negated : Bool
  pending : Option (CharSet × SetOp)
  items : CharSet
  /-- How many items there are since the last operation, and how deep they nest. -/
  count : Nat
  depth : Nat
  /-- How deep the sets before the last operation nest. -/
  leftDepth : Nat

namespace OpenClass

def add (c : OpenClass) (s : CharSet) (depth : Nat) : OpenClass :=
  { c with items := c.items.union s, count := c.count + 1, depth := max c.depth depth }

/-- How deep the items since the last operation nest; several of them are a level. -/
def itemsDepth (c : OpenClass) : Nat := if c.count < 2 then c.depth else c.depth + 1

/-- The set so far. -/
def value (f : Flags) (c : OpenClass) : CharSet × Nat :=
  match c.pending with
  | none => (c.items, c.itemsDepth)
  | some (left, op) => (op.apply f left c.items, max c.leftDepth c.itemsDepth + 1)

def operate (f : Flags) (op : SetOp) (c : OpenClass) : OpenClass :=
  let (set, depth) := c.value f
  ⟨c.negated, some (set, op), .empty, 0, 0, depth⟩

end OpenClass

/-- Whether a caret comes first, and what follows it. -/
def caret (s : List Char) : Bool × List Char :=
  match s with
  | '^' :: rest => (true, rest)
  | s => (false, s)

/-- A closing bracket that comes first stands for itself. -/
def firstBracket? (f : Flags) (c : OpenClass) (s : List Char) : Option (OpenClass × List Char) :=
  match s with
  | [] => none
  | d :: rest =>
    if d = ']' ∧ c.count = 0 then
      match skip f rest with
      | [] => none
      | rest => some (c.add (.single 0x5D) 0, rest)
    else some (c, s)

/-- A bracket just opened: a caret negates it, and hyphens and a closing bracket that come
first stand for themselves. -/
def openClass? (f : Flags) (s : List Char) : Option (OpenClass × List Char) :=
  let (negated, s) := caret (skip f s)
  let s := skip f s
  let rec hyphens (fuel : Nat) (c : OpenClass) (s : List Char) : OpenClass × List Char :=
    match fuel, s with
    | fuel + 1, '-' :: rest => hyphens fuel (c.add (.single 0x2D) 0) (skip f rest)
    | _, s => (c, s)
  let (c, s) := hyphens s.length ⟨negated, none, .empty, 0, 0, 0⟩ s
  firstBracket? f c s

/-- What follows the colon and the bracket that end a class's name. -/
def afterName? : List Char → Option (List Char)
  | ':' :: ']' :: rest => some rest
  | _ => none

/-- The name of a class up to its colon and bracket, which may be negated. -/
def asciiName? (s : List Char) : Option (Bool × CharSet × List Char) := do
  let (negated, s) := caret s
  let name := s.takeWhile (· != ':')
  let rest ← afterName? (s.drop name.length)
  (CharSet.ofAsciiName? name).map (negated, ·, rest)

/-- A named class in brackets and colons, after its first bracket, if there is one. -/
def asciiClass? (s : List Char) : Option (Bool × CharSet × List Char) :=
  match s with
  | ':' :: rest => asciiName? rest
  | _ => none

/-- One item of a class: an escape, or a character that stands for itself. -/
def classItem? (f : Flags) : List Char → Option (Primitive × List Char)
  | [] => none
  | c :: rest => if c = '\\' then escape? f rest else some (.literal c none, rest)

/-- The code point of a literal in a class. -/
def classChar? (f : Flags) : Primitive → Option Nat
  | .literal c byte =>
    if f.unicode then some c.toNat
    else if byte.any (0x80 ≤ ·) || 0x80 ≤ c.toNat then none
    else some c.toNat
  | _ => none

def classItemSet? (f : Flags) : Primitive → Option CharSet
  | .literal c byte => (classChar? f (.literal c byte)).map .single
  | .unicodeClass set => some set
  | .perlClass letter => perlSet? f letter
  | .look _ => none
  | .dot => none

def range? (f : Flags) (first last : Primitive) : Option CharSet := do
  let lo ← classChar? f first
  let hi ← classChar? f last
  if lo ≤ hi then some (.range lo hi) else none

/-- A range up to the item that comes next. -/
def rangeTo? (f : Flags) (first : Primitive) (s : List Char) : Option (CharSet × List Char) := do
  let (last, s) ← classItem? f s
  (range? f first last).map (·, s)

/-- An item alone or, with a hyphen after it, a range. A hyphen before a closing bracket or before
another hyphen makes no range. -/
def rangeFrom? (f : Flags) (first : Primitive) (s : List Char) : Option (CharSet × List Char) :=
  let single := (classItemSet? f first).map (·, s)
  match s with
  | [] => none
  | c :: rest =>
    if c = '-' then
      match skip f rest with
      | [] => none
      | d :: rest => if d = ']' ∨ d = '-' then single else rangeTo? f first (d :: rest)
    else single

def classRange? (f : Flags) (s : List Char) : Option (CharSet × List Char) := do
  let (first, s) ← classItem? f s
  rangeFrom? f first (skip f s)

def setOp? : Char → Option SetOp
  | '&' => some .inter
  | '-' => some .diff
  | '~' => some .symmDiff
  | _ => none

/-- The operation that two equal signs stand for. -/
def doubled? (c : Char) (s : List Char) : Option (SetOp × List Char) :=
  match s with
  | [] => none
  | d :: rest => if d = c then (setOp? c).map (·, rest) else none

/-- What one item of a class leads to: the class is closed, or brackets are open, innermost
first. -/
inductive ClassStep where
  | closed (set : CharSet) (depth : Nat)
  | opened (c : OpenClass) (outer : List OpenClass)

/-- A class in a class. -/
def nestedClass? (f : Flags) (c : OpenClass) (outer : List OpenClass) (s : List Char) :
    Option (ClassStep × List Char) :=
  match asciiClass? s with
  | some (negated, set, rest) =>
    (foldAndNegate? f negated set).map fun set => (.opened (c.add set 0) outer, rest)
  | none => (openClass? f s).map fun (inner, rest) => (.opened inner (c :: outer), rest)

def closeClass? (f : Flags) (c : OpenClass) (outer : List OpenClass) : Option ClassStep :=
  let (set, depth) := c.value f
  (foldAndNegate? f c.negated set).map fun set =>
    match outer with
    | [] => .closed set (depth + 1)
    | parent :: outer => .opened (parent.add set (depth + 1)) outer

def classStep? (f : Flags) (c : OpenClass) (outer : List OpenClass) (d : Char)
    (rest : List Char) : Option (ClassStep × List Char) :=
  if d = '[' then nestedClass? f c outer rest
  else if d = ']' then (closeClass? f c outer).map (·, rest)
  else
    match doubled? d rest with
    | some (op, rest) => some (.opened (c.operate f op) outer, rest)
    | none => (classRange? f (d :: rest)).map fun (set, rest) => (.opened (c.add set 0) outer, rest)

/-- The class whose brackets are open, innermost first. -/
def class? (f : Flags) (fuel : Nat) (c : OpenClass) (outer : List OpenClass) (s : List Char) :
    Option (CharSet × Nat × List Char) :=
  match fuel with
  | 0 => none
  | fuel + 1 =>
    match skip f s with
    | [] => none
    | d :: rest => do
      match ← classStep? f c outer d rest with
      | (.closed set depth, rest) => some (set, depth, rest)
      | (.opened c outer, rest) => class? f fuel c outer rest

end ImportWeb.Pattern.Reader
