/-!
Sets of characters as lists of inclusive ranges of code points. The ranges of a set may come
in any order and overlap.
-/

namespace ImportWeb.Pattern

structure CharSet where
  ranges : List (Nat × Nat)
  deriving DecidableEq, Repr, Inhabited

namespace CharSet

/-- The greatest code point. -/
def maxChar : Nat := 0x10FFFF

def has (s : CharSet) (n : Nat) : Bool := s.ranges.any fun r => r.1 ≤ n && n ≤ r.2

def mem (s : CharSet) (c : Char) : Bool := s.has c.toNat

def empty : CharSet := ⟨[]⟩

def single (n : Nat) : CharSet := ⟨[(n, n)]⟩

def range (lo hi : Nat) : CharSet := ⟨[(lo, hi)]⟩

def union (s t : CharSet) : CharSet := ⟨s.ranges ++ t.ranges⟩

/-- Puts a range before the first one that starts later. -/
def insertRange (r : Nat × Nat) : List (Nat × Nat) → List (Nat × Nat)
  | [] => [r]
  | q :: rest => if r.1 ≤ q.1 then r :: q :: rest else q :: insertRange r rest

/-- The ranges in the order of their starts. -/
def sorted (s : CharSet) : List (Nat × Nat) := s.ranges.foldr insertRange []

/-- What ranges in order leave out from `next` up to `limit`. -/
def gaps (limit next : Nat) : List (Nat × Nat) → List (Nat × Nat)
  | [] => if next ≤ limit then [(next, limit)] else []
  | r :: rest =>
    if next < r.1 then (next, r.1 - 1) :: gaps limit (max next (r.2 + 1)) rest
    else gaps limit (max next (r.2 + 1)) rest

/-- The code points up to `limit` that are not in the set. -/
def complement (limit : Nat) (s : CharSet) : CharSet := ⟨gaps limit 0 s.sorted⟩

def inter (limit : Nat) (s t : CharSet) : CharSet :=
  ((s.complement limit).union (t.complement limit)).complement limit

def diff (limit : Nat) (s t : CharSet) : CharSet :=
  ((s.complement limit).union t).complement limit

def symmDiff (limit : Nat) (s t : CharSet) : CharSet := (diff limit s t).union (diff limit t s)

/-- Whether the set is made of ASCII characters only. -/
def isAscii (s : CharSet) : Bool := s.ranges.all fun r => r.2 < 0x80 || r.2 < r.1

/-- The set with the other case of each ASCII letter in it. -/
def foldAscii (s : CharSet) : CharSet :=
  s.union ⟨(List.range 26).flatMap fun i =>
    let upper := 0x41 + i
    let lower := 0x61 + i
    if s.has upper || s.has lower then [(upper, upper), (lower, lower)] else []⟩

/-! ### ASCII classes -/

def asciiDigit : CharSet := range 0x30 0x39

def asciiLower : CharSet := range 0x61 0x7A

def asciiUpper : CharSet := range 0x41 0x5A

def asciiAlpha : CharSet := asciiLower.union asciiUpper

def asciiAlnum : CharSet := asciiDigit.union asciiAlpha

def asciiWord : CharSet := asciiAlnum.union (single 0x5F)

def asciiSpace : CharSet := (range 9 13).union (single 0x20)

/-- The bracketed classes that have names. -/
def ofAsciiName? (name : List Char) : Option CharSet :=
  match String.ofList name with
  | "alnum" => some asciiAlnum
  | "alpha" => some asciiAlpha
  | "ascii" => some (range 0 0x7F)
  | "blank" => some ((single 9).union (single 0x20))
  | "cntrl" => some ((range 0 0x1F).union (single 0x7F))
  | "digit" => some asciiDigit
  | "graph" => some (range 0x21 0x7E)
  | "lower" => some asciiLower
  | "print" => some (range 0x20 0x7E)
  | "punct" => some ⟨[(0x21, 0x2F), (0x3A, 0x40), (0x5B, 0x60), (0x7B, 0x7E)]⟩
  | "space" => some asciiSpace
  | "upper" => some asciiUpper
  | "word" => some asciiWord
  | "xdigit" => some ⟨[(0x30, 0x39), (0x41, 0x46), (0x61, 0x66)]⟩
  | _ => none

/-- The blank characters of every script. -/
def blank : CharSet :=
  ⟨[(9, 13), (0x20, 0x20), (0x85, 0x85), (0xA0, 0xA0), (0x1680, 0x1680), (0x2000, 0x200A),
    (0x2028, 0x2029), (0x202F, 0x202F), (0x205F, 0x205F), (0x3000, 0x3000)]⟩

theorem has_single (m n : Nat) : (single m).has n = decide (n = m) := by
  simp only [has, single, List.any_cons, List.any_nil, Bool.or_false]
  rw [Bool.eq_iff_iff]
  simp
  omega

end CharSet

end ImportWeb.Pattern
