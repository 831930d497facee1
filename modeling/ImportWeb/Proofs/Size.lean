import Mathlib.Analysis.SpecialFunctions.Pow.Real
import ImportWeb.Size

/-!
How far the size of a file is from the true power of its lines. Every step of the computation has
an error that is small beside its result: a square root is cut off at the last binary place, which
the next square root halves again, and rounding to 53 bits changes a number by half of its last
bit. So the integer in the end is the nearest one to the power, up to these errors.
-/

namespace ImportWeb.Size

/-! ### Rounding -/

/-- A rounded quotient is at most half a unit away. -/
theorem abs_roundDiv_sub_le (num : ℕ) {den : ℕ} (hden : 0 < den) :
    |(Double.roundDiv num den * den : ℝ) - num| ≤ den / 2 := by
  have hsplit : (num : ℝ) = den * (num / den : ℕ) + (num % den : ℕ) := by
    exact_mod_cast (Nat.div_add_mod num den).symm
  have hrest : ((num % den : ℕ) : ℝ) ≤ den := by exact_mod_cast (Nat.mod_lt num hden).le
  have hnonneg : (0 : ℝ) ≤ (num % den : ℕ) := Nat.cast_nonneg _
  rw [abs_le]
  unfold Double.roundDiv
  simp only
  split
  case isTrue hlt =>
    have hlt : (2 * (num % den : ℕ) : ℝ) < den := by exact_mod_cast hlt
    constructor <;> nlinarith
  case isFalse hge =>
    split
    case isTrue heq =>
      have heq : (2 * (num % den : ℕ) : ℝ) = den := by exact_mod_cast heq
      rcases Nat.mod_two_eq_zero_or_one (num / den) with hpar | hpar
      all_goals rw [hpar]; push_cast; constructor <;> nlinarith
    case isFalse hne =>
      have hgt : (den : ℝ) < 2 * (num % den : ℕ) := by exact_mod_cast (by omega)
      push_cast
      constructor <;> nlinarith

/-- Rounding to 53 bits changes a number by a small part of it. -/
theorem abs_rounded_sub_le (n : ℕ) : |(rounded n : ℝ) - n| ≤ n / 2 ^ 53 := by
  have hunit : 0 < 2 ^ (n.log2 - 52) := by positivity
  have hround := abs_roundDiv_sub_le n hunit
  have hcast :
      (rounded n : ℝ) = Double.roundDiv n (2 ^ (n.log2 - 52)) * (2 ^ (n.log2 - 52) : ℕ) := by
    exact Nat.cast_mul _ _
  rw [← hcast] at hround
  by_cases hbits : n.log2 ≤ 52
  · -- all bits are kept
    have hexact : rounded n = n := by
      have hone : (2 : ℕ) ^ (n.log2 - 52) = 1 := by rw [Nat.sub_eq_zero_of_le hbits, pow_zero]
      change Double.roundDiv n (2 ^ (n.log2 - 52)) * 2 ^ (n.log2 - 52) = n
      simp [hone, Double.roundDiv, Nat.mod_one]
    rw [hexact, sub_self, abs_zero]
    positivity
  · have hn : n ≠ 0 := by
      rintro rfl
      exact hbits (by decide)
    have hsmall : (2 : ℝ) ^ (n.log2 - 52) * 2 ^ 52 ≤ n := by
      rw [← pow_add, Nat.sub_add_cancel (by omega)]
      exact_mod_cast Nat.log2_self_le hn
    push_cast at hround
    refine hround.trans ?_
    rw [div_le_div_iff₀ (by norm_num) (by norm_num)]
    nlinarith

/-! ### The power -/

theorem one_eq : (one : ℝ) = 2 ^ 128 := by
  have hone : one = 2 ^ 128 := rfl
  rw [hone]
  norm_num

theorem one_pos : (0 : ℝ) < one := by
  rw [one_eq]
  positivity

/-- The exponent that the last bits of `e` stand for. -/
noncomputable def part (e bits : ℕ) : ℝ := (e % 2 ^ bits : ℕ) / 2 ^ bits

theorem part_succ (e bits : ℕ) :
    part e (bits + 1) = ((if e.testBit bits then 1 else 0) + part e bits) / 2 := by
  have hbit : e / 2 ^ bits % 2 = if e.testBit bits then 1 else 0 := by
    rw [Nat.testBit_eq_decide_div_mod_eq]
    rcases Nat.mod_two_eq_zero_or_one (e / 2 ^ bits) with h | h <;> simp [h]
  have hpow : (2 : ℝ) ^ bits ≠ 0 := by positivity
  rw [part, part, Nat.mod_pow_succ, hbit, pow_succ]
  split <;> push_cast <;> field_simp <;> ring

theorem part_nonneg (e bits : ℕ) : 0 ≤ part e bits := by
  unfold part
  positivity

theorem rpow_part_succ {x : ℝ} (hx : 1 ≤ x) (e bits : ℕ) :
    (x ^ part e (bits + 1)) ^ 2 = (if e.testBit bits then x else 1) * x ^ part e bits := by
  have hpos : 0 < x := zero_lt_one.trans_le hx
  rw [← Real.rpow_natCast, ← Real.rpow_mul hpos.le, part_succ]
  have hhalf : ((if e.testBit bits then 1 else 0) + part e bits) / 2 * (2 : ℕ) =
      (if e.testBit bits then 1 else 0) + part e bits := by
    push_cast
    ring
  rw [hhalf, Real.rpow_add hpos]
  split <;> simp

/-- The computed power is not above the true one, and three units of the last place below it at
most for each unit of it. A square root halves the error and its own cutting off adds to it. -/
theorem power_bounds {x : ℕ} (hx : 1 ≤ x) (e bits : ℕ) :
    (x : ℝ) ^ part e bits * (one - 3) ≤ power x e bits ∧
      power x e bits ≤ (x : ℝ) ^ part e bits * one := by
  have hx' : (1 : ℝ) ≤ x := by exact_mod_cast hx
  induction bits with
  | zero =>
    have hpart : part e 0 = 0 := by simp [part, Nat.mod_one]
    rw [hpart, Real.rpow_zero, power]
    constructor <;> linarith
  | succ bits ih =>
    obtain ⟨hlow, hhigh⟩ := ih
    set n := (if e.testBit bits then x else 1) * power x e bits * one with hn
    set t : ℝ := if e.testBit bits then (x : ℝ) else 1 with ht
    set p := (x : ℝ) ^ part e (bits + 1) with hp
    have hroot : power x e (bits + 1) = Nat.sqrt n := rfl
    have hcast : (n : ℝ) = t * power x e bits * one := by
      rw [hn, ht]
      split <;> push_cast <;> ring
    have hsquare : p ^ 2 = t * (x : ℝ) ^ part e bits := rpow_part_succ hx' e bits
    have hp1 : 1 ≤ p := Real.one_le_rpow hx' (part_nonneg e _)
    have ht0 : 0 ≤ t := by
      rw [ht]
      split <;> linarith
    have hone := one_eq
    have hfloor : ((Nat.sqrt n : ℕ) : ℝ) ^ 2 ≤ n := by exact_mod_cast Nat.sqrt_le' n
    have hceil : (n : ℝ) < ((Nat.sqrt n : ℕ) + 1 : ℝ) ^ 2 := by exact_mod_cast Nat.lt_succ_sqrt' n
    rw [hroot]
    constructor
    · have hbelow : (p * (one - 2)) ^ 2 ≤ n := calc
        (p * (one - 2)) ^ 2 = t * (x : ℝ) ^ part e bits * (one - 2) ^ 2 := by
          rw [mul_pow, hsquare]
        _ ≤ t * (x : ℝ) ^ part e bits * ((one - 3) * one) := by
          gcongr
          rw [hone]
          norm_num
        _ = t * ((x : ℝ) ^ part e bits * (one - 3)) * one := by ring
        _ ≤ t * power x e bits * one := by gcongr
        _ = n := hcast.symm
      have hle : p * (one - 2) ≤ (Nat.sqrt n : ℕ) + 1 :=
        le_of_lt (lt_of_pow_lt_pow_left₀ 2 (by positivity) (hbelow.trans_lt hceil))
      linarith
    · refine le_of_pow_le_pow_left₀ two_ne_zero (by positivity) (hfloor.trans ?_)
      calc (n : ℝ) = t * power x e bits * one := hcast
        _ ≤ t * ((x : ℝ) ^ part e bits * one) * one := by gcongr
        _ = (p * one) ^ 2 := by rw [mul_pow, hsquare]; ring

/-- A power below one changes by no more than its base does, beside the sizes of the two. -/
theorem abs_rpow_sub_le {n x c : ℝ} (hn : 0 < n) (hx : 0 < x) (hc : 0 ≤ c) (hc1 : c ≤ 1) :
    |x ^ c - n ^ c| ≤ n ^ c * (|x - n| / n) := by
  have hratio : 0 < x / n := div_pos hx hn
  have hsplit : x ^ c = n ^ c * (x / n) ^ c := by
    rw [← Real.mul_rpow hn.le hratio.le, mul_div_cancel₀ x hn.ne']
  have hpow : |(x / n) ^ c - 1| ≤ |x / n - 1| := by
    rcases le_total (x / n) 1 with hle | hge
    · have hself : x / n ≤ (x / n) ^ c := by
        simpa using Real.rpow_le_rpow_of_exponent_ge hratio hle hc1
      have hone : (x / n) ^ c ≤ 1 := Real.rpow_le_one hratio.le hle hc
      rw [abs_of_nonpos (by linarith), abs_of_nonpos (by linarith)]
      linarith
    · have hself : (x / n) ^ c ≤ x / n := by
        simpa using Real.rpow_le_rpow_of_exponent_le hge hc1
      have hone : 1 ≤ (x / n) ^ c := Real.one_le_rpow hge hc
      rw [abs_of_nonneg (by linarith), abs_of_nonneg (by linarith)]
      linarith
  have hdiff : |x / n - 1| = |x - n| / n := by
    rw [← abs_of_pos hn, ← abs_div, abs_of_pos hn, sub_div, div_self hn.ne']
  rw [hsplit, ← mul_sub_one, abs_mul, abs_of_nonneg (Real.rpow_nonneg hn.le c)]
  exact mul_le_mul_of_nonneg_left (hpow.trans hdiff.le) (Real.rpow_nonneg hn.le c)

/-! ### The size -/

/-- The number of the machine that stands for 0.6. -/
noncomputable def machineExponent : ℝ := exponent / 2 ^ 53

/-- The power of the lines that a size is meant to show. -/
noncomputable def truePower (lines : ℕ) : ℝ := (lines : ℝ) ^ machineExponent

theorem machineExponent_eq : part exponent 53 = machineExponent := by
  have hmod : exponent % 2 ^ 53 = exponent := by decide
  rw [part, hmod, machineExponent]

theorem machineExponent_bounds : 0 < machineExponent ∧ machineExponent * 51 ≤ 31 := by
  unfold machineExponent exponent
  constructor <;> norm_num

theorem rounded_pos {n : ℕ} (hn : 0 < n) : 0 < rounded n := by
  have hclose := abs_rounded_sub_le n
  have hn' : (0 : ℝ) < n := by exact_mod_cast hn
  rw [abs_le] at hclose
  have hpos : (0 : ℝ) < rounded n := by
    have : (n : ℝ) / 2 ^ 53 < n := div_lt_self hn' (by norm_num)
    linarith
  exact_mod_cast hpos

/-- The power of the machine differs from the true one in its last bits only. -/
theorem abs_machinePower_sub_le {lines : ℕ} (h : 0 < lines) :
    |(machinePower lines : ℝ) / one - truePower lines| ≤ truePower lines / 2 ^ 51 := by
  have hn : (0 : ℝ) < lines := by exact_mod_cast h
  have hx := rounded_pos h
  obtain ⟨hc, hc51⟩ := machineExponent_bounds
  have hcut := power_bounds hx exponent 53
  rw [machineExponent_eq] at hcut
  have hbase := abs_rpow_sub_le hn (by exact_mod_cast hx : (0 : ℝ) < rounded lines) hc.le
    (by linarith)
  have hread : |(rounded lines : ℝ) - lines| / lines ≤ 1 / 2 ^ 53 := by
    rw [div_le_iff₀ hn, one_div_mul_eq_div]
    exact abs_rounded_sub_le lines
  have hlast : |(machinePower lines : ℝ) - power (rounded lines) exponent 53| ≤
      power (rounded lines) exponent 53 / 2 ^ 53 := abs_rounded_sub_le _
  have htrue : 0 ≤ truePower lines := by unfold truePower; positivity
  have hclose : |(rounded lines : ℝ) ^ machineExponent - truePower lines| ≤
      truePower lines * (1 / 2 ^ 53) :=
    hbase.trans (mul_le_mul_of_nonneg_left hread htrue)
  -- all in units of one, where the bounds are linear
  obtain ⟨y, hy⟩ : ∃ y : ℝ, (power (rounded lines) exponent 53 : ℝ) = y * one :=
    ⟨_, (div_mul_cancel₀ _ one_pos.ne').symm⟩
  obtain ⟨m, hm⟩ : ∃ m : ℝ, (machinePower lines : ℝ) = m * one :=
    ⟨_, (div_mul_cancel₀ _ one_pos.ne').symm⟩
  rw [hm, hy, ← sub_mul, abs_mul, abs_of_pos one_pos, mul_div_right_comm,
    mul_le_mul_iff_left₀ one_pos] at hlast
  rw [hm, mul_div_cancel_right₀ _ one_pos.ne']
  rw [hy, one_eq] at hcut
  rw [abs_le] at hlast hclose ⊢
  constructor <;> linarith

/-- The integer is at most half a unit away from the power of the machine. -/
theorem abs_integerPower_sub_le (lines : ℕ) :
    |(integerPower lines : ℝ) - machinePower lines / one| ≤ 1 / 2 := by
  have hhalf : ((one / 2 : ℕ) : ℝ) = one / 2 := Nat.cast_div (by decide) two_ne_zero
  have hfloor : (integerPower lines * one : ℝ) ≤ machinePower lines + (one / 2 : ℕ) := by
    have hle : integerPower lines * one ≤ machinePower lines + one / 2 := Nat.div_mul_le_self _ _
    exact_mod_cast hle
  have hceil : (machinePower lines + (one / 2 : ℕ) : ℝ) < one * (integerPower lines + 1) := by
    have hlt : machinePower lines + one / 2 < one * (integerPower lines + 1) :=
      Nat.lt_mul_div_succ _ (by decide)
    exact_mod_cast hlt
  obtain ⟨m, hm⟩ : ∃ m : ℝ, (machinePower lines : ℝ) = m * one :=
    ⟨_, (div_mul_cancel₀ _ one_pos.ne').symm⟩
  rw [hm, mul_div_cancel_right₀ _ one_pos.ne', abs_le]
  rw [hm, hhalf, one_eq] at hfloor hceil
  constructor <;> linarith

/-- Up to half a unit and the last bits of the machine, `n` is the power of the lines. -/
def IsPower (lines n : ℕ) : Prop :=
  |(n : ℝ) - truePower lines| ≤ 1 / 2 + truePower lines / 2 ^ 51

theorem isPower_integerPower (lines : ℕ) : IsPower lines (integerPower lines) := by
  rcases Nat.eq_zero_or_pos lines with rfl | h
  · have hzero : integerPower 0 = 0 := by decide +kernel
    have hpower : truePower 0 = 0 := by
      rw [truePower, Nat.cast_zero, Real.zero_rpow machineExponent_bounds.1.ne']
    rw [IsPower, hzero, hpower]
    norm_num
  · calc |(integerPower lines : ℝ) - truePower lines|
        ≤ |(integerPower lines : ℝ) - machinePower lines / one| +
          |(machinePower lines : ℝ) / one - truePower lines| := abs_sub_le _ _ _
      _ ≤ 1 / 2 + truePower lines / 2 ^ 51 :=
        add_le_add (abs_integerPower_sub_le lines) (abs_machinePower_sub_le h)

/-- The power of fewer than `2 ^ 51` lines is not cut off. -/
theorem integerPower_lt {lines : ℕ} (h : lines < 2 ^ 51) : integerPower lines ≤ 2 ^ 31 + 1 := by
  obtain ⟨hc, hc51⟩ := machineExponent_bounds
  have hn : (lines : ℝ) ≤ 2 ^ (51 : ℝ) := by
    rw [show (51 : ℝ) = (51 : ℕ) by norm_num, Real.rpow_natCast]
    exact_mod_cast h.le
  have htrue : truePower lines ≤ 2 ^ 31 := calc
    truePower lines ≤ ((2 : ℝ) ^ (51 : ℝ)) ^ machineExponent :=
      Real.rpow_le_rpow (Nat.cast_nonneg _) hn hc.le
    _ = 2 ^ (51 * machineExponent) := (Real.rpow_mul (by norm_num) _ _).symm
    _ ≤ 2 ^ (31 : ℝ) := Real.rpow_le_rpow_of_exponent_le (by norm_num) (by linarith)
    _ = 2 ^ 31 := by norm_num
  have hclose := (abs_le.1 (isPower_integerPower lines)).2
  have hle : (integerPower lines : ℝ) ≤ (2 ^ 31 + 1 : ℕ) := by
    push_cast
    linarith
  exact_mod_cast hle

end Size

/-- The size of a file is right for every number of lines: five more than the power of its lines, in
32 bits, which hold it exactly unless there are very many lines. -/
theorem exists_isPower_fileSize (lines : ℕ) : ∃ k, Size.IsPower lines k ∧
    fileSize lines = (5 + min k (2 ^ 32 - 1)) % 2 ^ 32 ∧
    (lines < 2 ^ 51 → fileSize lines = 5 + k) := by
  refine ⟨Size.integerPower lines, Size.isPower_integerPower lines, rfl, fun h => ?_⟩
  have hle := Size.integerPower_lt h
  change (5 + min (Size.integerPower lines) (2 ^ 32 - 1)) % 2 ^ 32 = _
  omega

/-- Here the true power of 0.6 lies above a half and that of the machine below it. -/
example : fileSize 5016716183 = 661081 := by decide +kernel

end ImportWeb
