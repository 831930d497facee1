import ImportWeb.Double

/-!
How large a file is drawn: five more than the number of its lines to the power of 0.6, so that it
grows ever more slowly. The power is that of the machine, in which a number has 53 significant bits
and 0.6 stands for its nearest neighbour, and it can miss the nearest integer where the true power
lies almost halfway between two. A size has 32 bits.
-/

namespace ImportWeb

namespace Size

/-- The number one with 128 binary places. -/
def one : Nat := Nat.pow 2 128

/-- A number rounded to 53 significant bits, a tie going to the even one. -/
def rounded (n : Nat) : Nat :=
  let unit := Nat.pow 2 (n.log2 - 52)
  Double.roundDiv n unit * unit

/-- The number of 53 bits nearest to 0.6, as a multiple of `2 ^ -53`. -/
def exponent : Nat := 5404319552844595

/-- `x ^ (e / 2 ^ bits)` with 128 binary places, where the last bits of `e` count. The first of
these bits is a factor under the outermost square root. -/
def power (x e : Nat) : Nat → Nat
  | 0 => one
  | bits + 1 => Nat.sqrt ((if e.testBit bits then x else 1) * power x e bits * one)

/-- The power that the machine computes, with 128 binary places. -/
def machinePower (lines : Nat) : Nat := rounded (power (rounded lines) exponent 53)

/-- The power as an integer, a half going up. -/
def integerPower (lines : Nat) : Nat := (machinePower lines + one / 2) / one

/-- The greatest size. -/
def largest : Nat := Nat.pow 2 32 - 1

end Size

def baseSize : Nat := 5

/-- A power that is too large is cut off, and a sum that is too large starts again at zero. -/
def fileSize (lines : Nat) : Nat :=
  (baseSize + min (Size.integerPower lines) Size.largest) % (Size.largest + 1)

end ImportWeb
