import ImportWeb.Text.Decimal

/-!
Numbers in binary64: the finite ones are `m * 2 ^ q` with a mantissa below `2 ^ 53`. A decimal
is rounded to the nearest of them, a tie going to the even mantissa, and each of them is
written with the fewest digits that read back as the same number.
-/

namespace ImportWeb

inductive Double where
  | finite (negative : Bool) (mantissa : Nat) (exponent : Int)
  | infinite (negative : Bool)
  | nan
  deriving DecidableEq, Repr, Inhabited

namespace Double

/-- The least exponent, which the numbers nearest to zero share. -/
def minExponent : Int := -1074

/-- The greatest exponent. -/
def maxExponent : Int := 971

/-- `num / den` rounded to an integer, a tie going to the even one. -/
def roundDiv (num den : Nat) : Nat :=
  let whole := num / den
  let rest := 2 * (num % den)
  if rest < den then whole
  else if rest = den then whole + whole % 2
  else whole + 1

/-- `num / den * 2 ^ (-exponent)` rounded to an integer. -/
def scaled (num den : Nat) (exponent : Int) : Nat :=
  roundDiv (num * Nat.pow 2 (-exponent).toNat) (den * Nat.pow 2 exponent.toNat)

/-- The number nearest to `num / den`. -/
def ofRatio (negative : Bool) (num den : Nat) : Double :=
  if num = 0 then finite negative 0 minExponent
  else
    let guess : Int := (num.log2 : Int) - (den.log2 : Int) - 53
    let large := Nat.pow 2 53 ≤ num * Nat.pow 2 (-guess).toNat / (den * Nat.pow 2 guess.toNat)
    let exponent := max minExponent (if large then guess + 1 else guess)
    let mantissa := scaled num den exponent
    if mantissa < Nat.pow 2 53 then
      if exponent ≤ maxExponent then finite negative mantissa exponent else infinite negative
    else
      if exponent < maxExponent then finite negative (Nat.pow 2 52) (exponent + 1)
      else infinite negative

/-- The number nearest to `digits * 10 ^ exponent`. Exponents so far out that the answer is
zero or infinite are decided without writing the power down. -/
def ofDecimal (negative : Bool) (digits : Nat) (exponent : Int) : Double :=
  if digits = 0 then finite negative 0 minExponent
  else if exponent > 400 then infinite negative
  else if exponent + ((Nat.log2 digits : Int) + 1) < -400 then finite negative 0 minExponent
  else ofRatio negative (digits * Nat.pow 10 exponent.toNat) (Nat.pow 10 (-exponent).toNat)

/-- A sign at the front of a number's text, and the rest; no sign is a plus. -/
def readSign : List Char → Bool × List Char
  | '-' :: rest => (true, rest)
  | '+' :: rest => (false, rest)
  | rest => (false, rest)

def ofNat (n : Nat) : Double := ofDecimal false n 0

def ofInt (n : Int) : Double := ofDecimal (n < 0) n.natAbs 0

/-! ### Shortest digits -/

/-- Whether `num * 2 ^ e` is at least `digits * 10 ^ k`, or above it if `strict`. -/
def reaches (strict : Bool) (num : Nat) (e : Int) (digits : Nat) (k : Int) : Bool :=
  let left := num * Nat.pow 2 e.toNat * Nat.pow 10 (-k).toNat
  let right := digits * Nat.pow 10 k.toNat * Nat.pow 2 (-e).toNat
  if strict then right < left else right ≤ left

/-- Whether `digits * 10 ^ k` rounds to `m * 2 ^ q`. The ends of the interval belong to it
exactly when the mantissa is even; below a power of two it is half as wide. -/
def readsBack (m : Nat) (q : Int) (digits : Nat) (k : Int) : Bool :=
  let strict := m % 2 = 1
  let low := if m = Nat.pow 2 52 ∧ minExponent < q then 4 * m - 1 else 4 * m - 2
  ! reaches (! strict) low (q - 2) digits k && reaches strict (4 * m + 2) (q - 2) digits k

/-- The greatest `k` with `10 ^ k ≤ m * 2 ^ q`, for a positive mantissa. -/
def magnitude (m : Nat) (q : Int) : Int :=
  let guess := ((m.log2 : Int) + q) * 30103 / 100000
  if reaches false m q 1 (guess + 1) then guess + 1 else guess

/-- The integer below `m * 2 ^ q / 10 ^ k`. -/
def gridBelow (m : Nat) (q k : Int) : Nat :=
  m * Nat.pow 2 q.toNat * Nat.pow 10 (-k).toNat / (Nat.pow 2 (-q).toNat * Nat.pow 10 k.toNat)

/-- The nearer of two neighbours on the decimal grid, the even one on a tie. -/
def nearer (m : Nat) (q k : Int) (below : Nat) : Nat :=
  if reaches true (2 * m) q (2 * below + 1) k then below + 1
  else if reaches false (2 * m) q (2 * below + 1) k then below + below % 2
  else below

/-- The digits and exponent of the coarsest grid, from `10 ^ k` on downwards, that has a
number reading back as `m * 2 ^ q`. -/
def shortestFrom (m : Nat) (q : Int) : Nat → Int → Nat × Int
  | 0, k => (gridBelow m q k, k)
  | fuel + 1, k =>
    let below := gridBelow m q k
    match readsBack m q below k, readsBack m q (below + 1) k with
    | true, true => (nearer m q k below, k)
    | true, false => (below, k)
    | false, true => (below + 1, k)
    | false, false => shortestFrom m q fuel (k - 1)

/-- Drops trailing zeros, at most `fuel` of them. -/
def stripZeros : Nat → Nat × Int → Nat × Int
  | 0, d => d
  | fuel + 1, (digits, k) =>
    if digits % 10 = 0 then stripZeros fuel (digits / 10, k + 1) else (digits, k)

/-- The shortest digits of a positive number, the last of them not zero. -/
def shortest (m : Nat) (q : Int) : Nat × Int :=
  stripZeros 20 (shortestFrom m q 20 (magnitude m q))

/-! ### Text -/

def exponentChars (e : Int) : List Char :=
  'e' :: (if e < 0 then '-' else '+') :: Text.decimal e.natAbs

/-- Digits with a point: positional from `10 ^ -5` up to below `10 ^ 16`, otherwise one digit
before the point and an exponent. -/
def layOut (digits : List Char) (k : Int) : List Char :=
  let point : Int := digits.length + k
  if 0 ≤ k ∧ point ≤ 16 then digits ++ List.replicate k.toNat '0' ++ ['.', '0']
  else if 0 < point ∧ point ≤ 16 then
    digits.take point.toNat ++ '.' :: digits.drop point.toNat
  else if -5 < point ∧ point ≤ 0 then
    '0' :: '.' :: List.replicate (-point).toNat '0' ++ digits
  else
    match digits with
    | [] => []
    | [d] => d :: exponentChars (point - 1)
    | d :: rest => d :: '.' :: rest ++ exponentChars (point - 1)

/-- The text of a number; only finite ones have one. -/
def text? : Double → Option (List Char)
  | finite negative m q =>
    let digits := if m = 0 then "0.0".toList else
      let (digits, k) := shortest m q
      layOut (Text.decimal digits) k
    some (if negative then '-' :: digits else digits)
  | infinite _ => none
  | nan => none

end Double

end ImportWeb
