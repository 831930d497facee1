import Mathlib.Data.List.TakeWhile
import ImportWeb.Toml.Scalar

/-!
Reading numbers and dates with more text to come. They end before a line break, so they are read
the same whatever stands behind it, and what is no number or date before the line break is none
whatever stands behind it.
-/

namespace ImportWeb.Toml

variable {α β : Type} {t s u r : List Char} {c : Char}

/-! ### A text and the same text with more behind it -/

/-- The first text has a line break at its end, and the second one goes on behind it. -/
structure GoesOn (t s u : List Char) : Prop where
  broken : s.getLast? = some '\n'
  eq : u = s ++ t

/-- As `GoesOn`, or the first text is over. -/
def GoesOnOrEnds (t s u : List Char) : Prop := u = s ++ t ∧ (s ≠ [] → s.getLast? = some '\n')

/-- Results of the same value with such texts behind them. -/
def Tied (t : List Char) (x y : α × List Char) : Prop := x.1 = y.1 ∧ GoesOn t x.2 y.2

theorem GoesOnOrEnds.goesOn (h : GoesOnOrEnds t s u) (hs : s ≠ []) : GoesOn t s u := ⟨h.2 hs, h.1⟩

theorem GoesOn.ne_nil (h : GoesOn t s u) : s ≠ [] := by
  rintro rfl
  cases h.broken

theorem GoesOn.tail (h : GoesOn t (c :: s) (c :: u)) (hc : c ≠ '\n') : GoesOn t s u := by
  refine ⟨?_, (List.cons.inj h.eq).2⟩
  have hbroken := h.broken
  cases s with
  | nil => exact absurd (Option.some.inj hbroken) hc
  | cons d s => rwa [List.getLast?_cons_cons] at hbroken

theorem GoesOn.tail_or (h : GoesOn t (c :: s) (c :: u)) : GoesOnOrEnds t s u := by
  refine ⟨(List.cons.inj h.eq).2, fun hs => ?_⟩
  obtain ⟨d, s, rfl⟩ := List.exists_cons_of_ne_nil hs
  have hbroken := h.broken
  rwa [List.getLast?_cons_cons] at hbroken

/-- Both texts have the same first character. -/
theorem GoesOn.exists_cons (h : GoesOn t s u) : ∃ c s' u', s = c :: s' ∧ u = c :: u' := by
  obtain ⟨c, s', rfl⟩ := List.exists_cons_of_ne_nil h.ne_nil
  exact ⟨c, s', s' ++ t, rfl, h.eq⟩

theorem GoesOn.of_cons (h : GoesOn t (c :: s) u) : ∃ u', u = c :: u' := ⟨s ++ t, h.eq⟩

theorem drop_length_takeWhile (p : Char → Bool) (s : List Char) :
    s.drop (s.takeWhile p).length = s.dropWhile p := by
  have h : (s.takeWhile p ++ s.dropWhile p).drop (s.takeWhile p).length = s.dropWhile p :=
    List.drop_left
  rwa [List.takeWhile_append_dropWhile] at h

/-- A run of characters other than line breaks ends in the first text. -/
theorem GoesOn.run {p : Char → Bool} (hp : p '\n' = false) (h : GoesOn t s u) :
    u.takeWhile p = s.takeWhile p ∧ GoesOn t (s.dropWhile p) (u.dropWhile p) := by
  induction s generalizing u with
  | nil => exact absurd rfl h.ne_nil
  | cons c s ih =>
    obtain ⟨u, rfl⟩ := h.of_cons
    by_cases hc : p c = true
    · have hne : c ≠ '\n' := by
        rintro rfl
        rw [hp] at hc
        cases hc
      obtain ⟨htake, hdrop⟩ := ih (h.tail hne)
      rw [List.takeWhile_cons_of_pos hc, List.takeWhile_cons_of_pos hc, htake,
        List.dropWhile_cons_of_pos hc, List.dropWhile_cons_of_pos hc]
      exact ⟨rfl, hdrop⟩
    · rw [List.takeWhile_cons_of_neg hc, List.takeWhile_cons_of_neg hc,
        List.dropWhile_cons_of_neg hc, List.dropWhile_cons_of_neg hc]
      exact ⟨rfl, h⟩

theorem rel_bind {same : α → α → Prop} {same' : β → β → Prop} {a b : Option α}
    {k k' : α → Option β} (h : Option.Rel same a b)
    (hk : ∀ x y, same x y → Option.Rel same' (k x) (k' y)) :
    Option.Rel same' (a >>= k) (b >>= k') := by
  cases h with
  | none => exact .none
  | some h => exact hk _ _ h

theorem rel_map {same : α → α → Prop} {same' : β → β → Prop} {a b : Option α} {k : α → β}
    (h : Option.Rel same a b) (hk : ∀ x y, same x y → same' (k x) (k y)) :
    Option.Rel same' (a.map k) (b.map k) := by
  cases h with
  | none => exact .none
  | some h => exact .some (hk _ _ h)

/-- The results are there in both texts or in none. -/
theorem rel_cases {same : α → α → Prop} {a b : Option α} (h : Option.Rel same a b) :
    a = none ∧ b = none ∨ ∃ x y, a = some x ∧ b = some y ∧ same x y := by
  cases h with
  | none => exact .inl ⟨rfl, rfl⟩
  | some h => exact .inr ⟨_, _, rfl, rfl, h⟩

theorem rel_isSome {same : α → α → Prop} {a b : Option α} (h : Option.Rel same a b) :
    b.isSome = a.isSome := by
  cases h <;> rfl

/-! ### Spaces, comments and line breaks -/

theorem GoesOn.skipSpace (h : GoesOn t s u) : GoesOn t (skipSpace s) (skipSpace u) :=
  (h.run (by decide)).2

theorem rel_comment? (h : GoesOn t s u) : Option.Rel (GoesOn t) (comment? s) (comment? u) := by
  obtain ⟨c, s, u, rfl, rfl⟩ := h.exists_cons
  by_cases hc : c = '#'
  · subst hc
    exact .some ((h.tail (by decide)).run (by decide)).2
  · have hnone (s : List Char) : comment? (c :: s) = none := by simp [comment?, hc]
    rw [hnone, hnone]
    exact .none

theorem rel_newline? (h : GoesOn t s u) :
    Option.Rel (GoesOnOrEnds t) (newline? s) (newline? u) := by
  obtain ⟨c, s, u, rfl, rfl⟩ := h.exists_cons
  by_cases hc : c = '\n'
  · subst hc
    exact .some h.tail_or
  by_cases hr : c = '\r'
  · subst hr
    have hrest := h.tail (by decide)
    obtain ⟨d, s, u, rfl, rfl⟩ := hrest.exists_cons
    by_cases hd : d = '\n'
    · subst hd
      exact .some hrest.tail_or
    · have hnone (s : List Char) : newline? ('\r' :: d :: s) = none := by simp [newline?, hd]
      rw [hnone, hnone]
      exact .none
  · have hnone (s : List Char) : newline? (c :: s) = none := by simp [newline?, hc, hr]
    rw [hnone, hnone]
    exact .none

/-- A word without line breaks is there in both texts or in none. -/
theorem rel_dropPrefix? (word : List Char) (hword : '\n' ∉ word) (h : GoesOn t s u) :
    Option.Rel (GoesOn t) (Text.dropPrefix? word s) (Text.dropPrefix? word u) := by
  induction word generalizing s u with
  | nil => exact .some h
  | cons d word ih =>
    rw [List.mem_cons, not_or] at hword
    obtain ⟨c, s, u, rfl, rfl⟩ := h.exists_cons
    by_cases hc : d = c
    · subst hc
      simpa [Text.dropPrefix?, List.isPrefixOf] using ih hword.2 (h.tail (Ne.symm hword.1))
    · simp only [Text.dropPrefix?, List.isPrefixOf, beq_false_of_ne hc, Bool.false_and]
      exact .none

/-! ### Digits -/

/-- What is read and stays within its bounds. -/
theorem rel_bounded (n : Int) (h : GoesOn t r u) :
    Option.Rel (Tied t) (do return (← bounded? n, r)) (do return (← bounded? n, u)) := by
  cases bounded? n with
  | none => exact .none
  | some v => exact .some ⟨rfl, h⟩

section Digits

variable {isDigit : Char → Bool} (hnewline : isDigit '\n' = false)

include hnewline

theorem ne_newline_of_isDigit (hc : isDigit c = true) : c ≠ '\n' := by
  rintro rfl
  rw [hnewline] at hc
  cases hc

omit hnewline in
theorem digitsFrom_cons_of_ne (hc : c ≠ '_') (done s : List Char) :
    digitsFrom isDigit done (c :: s) =
      if isDigit c then digitsFrom isDigit (c :: done) s else some (done.reverse, c :: s) := by
  rw [digitsFrom] <;> simp [hc]

theorem rel_digitsFrom (done : List Char) (h : GoesOn t s u) :
    Option.Rel (Tied t) (digitsFrom isDigit done s) (digitsFrom isDigit done u) := by
  have hne : ∀ c, isDigit c = true → c ≠ '\n' := fun c hc => ne_newline_of_isDigit hnewline hc
  have hplain : ∀ (c : Char) (s : List Char),
      (∀ d rest, c = '_' → s = d :: rest → False) → (c = '_' → s = [] → False) → c ≠ '_' := by
    rintro c (_ | ⟨d, s⟩) hmore hlast rfl
    · exact hlast rfl rfl
    · exact hmore d s rfl rfl
  induction done, s using digitsFrom.induct isDigit generalizing u with
  | case1 done c s hc ih =>
    obtain ⟨u, rfl⟩ := h.of_cons
    have hrest := h.tail (by decide)
    obtain ⟨u, rfl⟩ := hrest.of_cons
    rw [digitsFrom, digitsFrom, if_pos hc, if_pos hc]
    exact ih (hrest.tail (hne c hc))
  | case2 done c s hc =>
    obtain ⟨u, rfl⟩ := h.of_cons
    obtain ⟨u, rfl⟩ := (h.tail (by decide)).of_cons
    rw [digitsFrom, digitsFrom, if_neg hc, if_neg hc]
    exact .none
  | case3 done => exact absurd h.broken (by decide)
  | case4 done c s hmore hlast hc ih =>
    obtain ⟨u, rfl⟩ := h.of_cons
    have hplain := hplain c s hmore hlast
    rw [digitsFrom_cons_of_ne hplain, digitsFrom_cons_of_ne hplain, if_pos hc, if_pos hc]
    exact ih (h.tail (hne c hc))
  | case5 done c s hmore hlast hc =>
    obtain ⟨u, rfl⟩ := h.of_cons
    have hplain := hplain c s hmore hlast
    rw [digitsFrom_cons_of_ne hplain, digitsFrom_cons_of_ne hplain, if_neg hc, if_neg hc]
    exact .some ⟨rfl, h⟩
  | case6 => exact absurd rfl h.ne_nil

theorem rel_digits? (h : GoesOn t s u) :
    Option.Rel (Tied t) (digits? isDigit s) (digits? isDigit u) := by
  obtain ⟨c, s, u, rfl, rfl⟩ := h.exists_cons
  rw [digits?, digits?]
  split
  case isTrue hc => exact rel_digitsFrom hnewline _ (h.tail (ne_newline_of_isDigit hnewline hc))
  case isFalse => exact .none

theorem rel_based? (base : Nat) (h : GoesOn t s u) :
    Option.Rel (Tied t) (based? base isDigit s) (based? base isDigit u) := by
  refine rel_bind (rel_digits? hnewline h) ?_
  rintro ⟨digits, r⟩ ⟨_, v⟩ ⟨rfl, hr⟩
  exact rel_bounded _ hr

end Digits

theorem rel_wholeDigits? (h : GoesOn t s u) :
    Option.Rel (Tied t) (wholeDigits? s) (wholeDigits? u) := by
  obtain ⟨c, s, u, rfl, rfl⟩ := h.exists_cons
  by_cases hc : c = '0'
  · subst hc
    exact .some ⟨rfl, h.tail (by decide)⟩
  · have hdigits (s : List Char) : wholeDigits? (c :: s) = digits? Char.isDigit (c :: s) := by
      simp [wholeDigits?, hc]
    rw [hdigits, hdigits]
    exact rel_digits? (by decide) h

/-- A sign is the same in both texts. -/
theorem exists_readSign (h : GoesOn t s u) : ∃ negative r v, Double.readSign s = (negative, r) ∧
    Double.readSign u = (negative, v) ∧ GoesOn t r v := by
  obtain ⟨c, s, u, rfl, rfl⟩ := h.exists_cons
  by_cases hminus : c = '-'
  · subst hminus
    exact ⟨true, s, u, rfl, rfl, h.tail (by decide)⟩
  by_cases hplus : c = '+'
  · subst hplus
    exact ⟨false, s, u, rfl, rfl, h.tail (by decide)⟩
  · have hnone (s : List Char) : Double.readSign (c :: s) = (false, c :: s) := by
      simp [Double.readSign, hminus, hplus]
    exact ⟨false, c :: s, c :: u, hnone s, hnone u, h⟩

/-! ### Numbers -/

/-- An integer without a letter that names its base. -/
def decimal? (s : List Char) : Option (Value × List Char) := do
  let (negative, s) := Double.readSign s
  let (digits, rest) ← wholeDigits? s
  let n : Int := ofDigits 10 digits
  return (← bounded? (if negative then -n else n), rest)

theorem rel_decimal? (h : GoesOn t s u) : Option.Rel (Tied t) (decimal? s) (decimal? u) := by
  obtain ⟨negative, r, v, hs, hu, hr⟩ := exists_readSign h
  rw [decimal?, decimal?, hs, hu]
  refine rel_bind (rel_wholeDigits? hr) ?_
  rintro ⟨digits, r⟩ ⟨_, v⟩ ⟨rfl, hr⟩
  exact rel_bounded _ hr

theorem rel_integer? (h : GoesOn t s u) : Option.Rel (Tied t) (integer? s) (integer? u) := by
  obtain ⟨c, s, u, rfl, rfl⟩ := h.exists_cons
  by_cases hc : c = '0'
  · subst hc
    have hrest := h.tail (by decide)
    obtain ⟨d, s, u, rfl, rfl⟩ := hrest.exists_cons
    by_cases hx : d = 'x'
    · subst hx
      exact rel_based? (by decide) 16 (hrest.tail (by decide))
    by_cases ho : d = 'o'
    · subst ho
      exact rel_based? (by decide) 8 (hrest.tail (by decide))
    by_cases hb : d = 'b'
    · subst hb
      exact rel_based? (by decide) 2 (hrest.tail (by decide))
    · have hdecimal (s : List Char) : integer? ('0' :: d :: s) = decimal? ('0' :: d :: s) := by
        simp [integer?, hx, ho, hb, decimal?]
      rw [hdecimal, hdecimal]
      exact rel_decimal? h
  · have hdecimal (s : List Char) : integer? (c :: s) = decimal? (c :: s) := by
      simp [integer?, hc, decimal?]
    rw [hdecimal, hdecimal]
    exact rel_decimal? h

theorem rel_exponent? (h : GoesOn t s u) : Option.Rel (Tied t) (exponent? s) (exponent? u) := by
  obtain ⟨c, s, u, rfl, rfl⟩ := h.exists_cons
  rw [exponent?, exponent?]
  split
  case isTrue hc =>
    have hne : c ≠ '\n' := by
      rintro rfl
      revert hc
      decide
    obtain ⟨negative, r, v, hs, hu, hr⟩ := exists_readSign (h.tail hne)
    rw [hs, hu]
    refine rel_bind (rel_digits? (by decide) hr) ?_
    rintro ⟨digits, r⟩ ⟨_, v⟩ ⟨rfl, hr⟩
    exact .some ⟨rfl, hr⟩
  case isFalse => exact .some ⟨rfl, h⟩

theorem rel_specialFloat? (h : GoesOn t s u) :
    Option.Rel (Tied t) (specialFloat? s) (specialFloat? u) := by
  obtain ⟨negative, r, v, hs, hu, hr⟩ := exists_readSign h
  rw [specialFloat?, specialFloat?, hs, hu]
  dsimp only
  obtain ⟨hr', hv'⟩ | ⟨r', v', hr', hv', hrest⟩ :=
    rel_cases (rel_dropPrefix? "inf".toList (by decide) hr)
  · rw [hr', hv']
    exact rel_map (rel_dropPrefix? "nan".toList (by decide) hr) fun _ _ hrest => ⟨rfl, hrest⟩
  · rw [hr', hv']
    exact .some ⟨rfl, hrest⟩

/-- What follows the digits before the point, without the exponent. -/
def fraction? : List Char → Option (List Char × List Char)
  | '.' :: rest => digits? Char.isDigit rest
  | s => some ([], s)

theorem rel_fraction? (h : GoesOn t s u) : Option.Rel (Tied t) (fraction? s) (fraction? u) := by
  obtain ⟨c, s, u, rfl, rfl⟩ := h.exists_cons
  by_cases hc : c = '.'
  · subst hc
    exact rel_digits? (by decide) (h.tail (by decide))
  · have hnone (s : List Char) : fraction? (c :: s) = some ([], c :: s) := by
      simp [fraction?, hc]
    rw [hnone, hnone]
    exact .some ⟨rfl, h⟩

theorem isFloat_eq (h : GoesOn t s u) : isFloat u = isFloat s := by
  obtain ⟨negative, r, v, hs, hu, hr⟩ := exists_readSign h
  rw [isFloat, isFloat, hs, hu]
  dsimp only
  obtain ⟨hr', hv'⟩ | ⟨⟨digits, r'⟩, ⟨_, v'⟩, hr', hv', rfl, hrest⟩ :=
    rel_cases (rel_wholeDigits? hr)
  · rw [hr', hv']
  · rw [hr', hv']
    obtain ⟨c, r, v, rfl, rfl⟩ := hrest.exists_cons
    by_cases hc : c = '.'
    · subst hc
      exact rel_isSome (rel_digits? (by decide) (hrest.tail (by decide)))
    · simp only [rel_isSome (rel_exponent? hrest)]

/-- The exponent, and the number that it makes of the digits. -/
def scaled? (negative : Bool) (whole fraction s : List Char) : Option (Value × List Char) := do
  let (exponent, rest) ← exponent? s
  let x := Double.ofDecimal negative (ofDigits 10 (whole ++ fraction))
    (exponent.getD 0 - fraction.length)
  if x = .infinite false then none else some (.float x, rest)

theorem rel_scaled? (negative : Bool) (whole fraction : List Char) (h : GoesOn t s u) :
    Option.Rel (Tied t) (scaled? negative whole fraction s)
      (scaled? negative whole fraction u) := by
  refine rel_bind (rel_exponent? h) ?_
  rintro ⟨exponent, r⟩ ⟨_, v⟩ ⟨rfl, hr⟩
  dsimp only
  split
  case isTrue => exact .none
  case isFalse => exact .some ⟨rfl, hr⟩

theorem float?_eq (s : List Char) : float? s = (do
    let (negative, s) := Double.readSign s
    let (whole, s) ← wholeDigits? s
    let (fraction, s) ← fraction? s
    scaled? negative whole fraction s) := by
  rw [float?]
  refine congrArg (wholeDigits? (Double.readSign s).2 >>= ·) (funext fun ⟨whole, s⟩ => ?_)
  cases s with
  | nil => rfl
  | cons c s =>
    by_cases hc : c = '.'
    · subst hc
      rfl
    · simp [fraction?, scaled?, hc]

theorem rel_float? (h : GoesOn t s u) : Option.Rel (Tied t) (float? s) (float? u) := by
  obtain ⟨negative, r, v, hs, hu, hr⟩ := exists_readSign h
  rw [float?_eq, float?_eq, hs, hu]
  refine rel_bind (rel_wholeDigits? hr) ?_
  rintro ⟨whole, r⟩ ⟨_, v⟩ ⟨rfl, hr⟩
  refine rel_bind (rel_fraction? hr) ?_
  rintro ⟨fraction, r⟩ ⟨_, v⟩ ⟨rfl, hr⟩
  exact rel_scaled? negative whole fraction hr

/-! ### Dates -/

/-- Digits of a number are a part of the first text, if they are a part of the second one. -/
theorem rel_fixed {isDigit : Char → Bool} (hnewline : isDigit '\n' = false) (width : Nat)
    (h : GoesOn t s u) :
    ((s.take width).length = width ∧ (s.take width).all isDigit = true ∧
      u.take width = s.take width ∧ GoesOn t (s.drop width) (u.drop width)) ∨
    ¬ ((s.take width).length = width ∧ (s.take width).all isDigit = true) ∧
      ¬ ((u.take width).length = width ∧ (u.take width).all isDigit = true) := by
  induction width generalizing s u with
  | zero => exact .inl ⟨rfl, rfl, rfl, h⟩
  | succ width ih =>
    obtain ⟨c, s, u, rfl, rfl⟩ := h.exists_cons
    by_cases hc : isDigit c = true
    · have hrest := h.tail (ne_newline_of_isDigit hnewline hc)
      simpa [hc] using ih hrest
    · exact .inr ⟨by simp [hc], by simp [hc]⟩

theorem rel_fixedDigits? (width : Nat) (h : GoesOn t s u) :
    Option.Rel (Tied t) (fixedDigits? width s) (fixedDigits? width u) := by
  unfold fixedDigits?
  dsimp only
  simp only [Bool.and_eq_true, decide_eq_true_eq]
  rcases rel_fixed (show Char.isDigit '\n' = false by decide) width h with
    ⟨hlength, hdigits, htake, hrest⟩ | ⟨hs, hu⟩
  · rw [htake, if_pos ⟨hlength, hdigits⟩, if_pos ⟨hlength, hdigits⟩]
    exact .some ⟨rfl, hrest⟩
  · rw [if_neg hs, if_neg hu]
    exact .none

theorem rel_monthDay? (year : Nat) (h : GoesOn t s u) :
    Option.Rel (GoesOn t) (monthDay? year s) (monthDay? year u) := by
  refine rel_bind (rel_fixedDigits? 2 h) ?_
  rintro ⟨month, r⟩ ⟨_, v⟩ ⟨rfl, hr⟩
  refine rel_bind (rel_dropPrefix? ['-'] (by decide) hr) fun r v hr => ?_
  refine rel_bind (rel_fixedDigits? 2 hr) ?_
  rintro ⟨day, r⟩ ⟨_, v⟩ ⟨rfl, hr⟩
  dsimp only
  split
  case isTrue => exact .some hr
  case isFalse => exact .none

/-- What follows the fraction of a second, or the second if there is none. -/
def afterFraction : List Char → List Char
  | '.' :: rest =>
    if (rest.takeWhile Char.isDigit).isEmpty then '.' :: rest else rest.dropWhile Char.isDigit
  | s => s

theorem GoesOn.afterFraction (h : GoesOn t s u) : GoesOn t (afterFraction s) (afterFraction u) := by
  obtain ⟨c, s, u, rfl, rfl⟩ := h.exists_cons
  by_cases hc : c = '.'
  · subst hc
    obtain ⟨htake, hdrop⟩ := (h.tail (by decide)).run (p := Char.isDigit) (by decide)
    rw [Toml.afterFraction, Toml.afterFraction, htake]
    split
    case isTrue => exact h
    case isFalse => exact hdrop
  · have hself (s : List Char) : Toml.afterFraction (c :: s) = c :: s := by
      simp [Toml.afterFraction, hc]
    rw [hself, hself]
    exact h

theorem minuteSecond?_eq (s : List Char) : minuteSecond? s = (do
    let (minute, s) ← fixedDigits? 2 s
    let s ← Text.dropPrefix? [':'] s
    let (second, s) ← fixedDigits? 2 s
    if 59 < minute ∨ 60 < second then none else some (afterFraction s)) := by
  rw [minuteSecond?]
  congr 1
  funext ⟨minute, s⟩
  dsimp only
  congr 1
  funext s
  congr 1
  funext ⟨second, s⟩
  dsimp only
  congr 1
  cases s with
  | nil => rfl
  | cons c s =>
    by_cases hc : c = '.'
    · subst hc
      simp only [afterFraction, drop_length_takeWhile]
      split <;> rfl
    · simp [afterFraction, hc]

theorem rel_minuteSecond? (h : GoesOn t s u) :
    Option.Rel (GoesOn t) (minuteSecond? s) (minuteSecond? u) := by
  rw [minuteSecond?_eq, minuteSecond?_eq]
  refine rel_bind (rel_fixedDigits? 2 h) ?_
  rintro ⟨minute, r⟩ ⟨_, v⟩ ⟨rfl, hr⟩
  refine rel_bind (rel_dropPrefix? [':'] (by decide) hr) fun r v hr => ?_
  refine rel_bind (rel_fixedDigits? 2 hr) ?_
  rintro ⟨second, r⟩ ⟨_, v⟩ ⟨rfl, hr⟩
  dsimp only
  split
  case isTrue => exact .none
  case isFalse => exact .some hr.afterFraction

/-- Readings of a date that both come to the same. -/
inductive DatedAlike (t : List Char) : Dated → Dated → Prop
  | absent : DatedAlike t .absent .absent
  | wrong : DatedAlike t .wrong .wrong
  | done {r v : List Char} (h : GoesOn t r v) : DatedAlike t (.done r) (.done v)

/-- A reading of a date goes on alike after a result that is there in both texts or in none. -/
theorem DatedAlike.elim {same : α → α → Prop} {a b : Option α} {missing missing' : Dated}
    {k k' : α → Dated} (h : Option.Rel same a b) (hmissing : DatedAlike t missing missing')
    (hk : ∀ x y, same x y → DatedAlike t (k x) (k' y)) :
    DatedAlike t (a.elim missing k) (b.elim missing' k') := by
  cases h with
  | none => exact hmissing
  | some h => exact hk _ _ h

/-- A time of day after its hour. -/
def timeAfter (hour : Nat) : List Char → Dated
  | ':' :: rest => if 23 < hour then .absent else (minuteSecond? rest).elim .wrong .done
  | _ => .absent

theorem time_eq (s : List Char) :
    time s = (fixedDigits? 2 s).elim .absent fun x => timeAfter x.1 x.2 := by
  rw [time]
  cases fixedDigits? 2 s with
  | none => rfl
  | some x =>
    obtain ⟨hour, _ | ⟨c, s⟩⟩ := x
    · rfl
    · by_cases hc : c = ':'
      · subst hc
        simp only [Option.elim_some, timeAfter]
        split
        · rfl
        · cases minuteSecond? s <;> rfl
      · simp [timeAfter, hc]

theorem datedAlike_time (h : GoesOn t s u) : DatedAlike t (time s) (time u) := by
  rw [time_eq, time_eq]
  refine .elim (rel_fixedDigits? 2 h) .absent ?_
  rintro ⟨hour, r⟩ ⟨_, v⟩ ⟨rfl, hr⟩
  obtain ⟨c, r, v, rfl, rfl⟩ := hr.exists_cons
  by_cases hc : c = ':'
  · subst hc
    rw [timeAfter, timeAfter]
    split
    case isTrue => exact .absent
    case isFalse => exact .elim (rel_minuteSecond? (hr.tail (by decide))) .wrong fun _ _ => .done
  · have habsent (s : List Char) : timeAfter hour (c :: s) = .absent := by simp [timeAfter, hc]
    rw [habsent, habsent]
    exact .absent

/-- The minutes of an offset after its hours. -/
def offsetAfter (hour : Nat) : List Char → Dated
  | ':' :: rest => (fixedDigits? 2 rest).elim .wrong fun x =>
      if hour ≤ 23 ∧ x.1 ≤ 59 then .done x.2 else .wrong
  | _ => .wrong

theorem offset_sign (hc : c = '+' ∨ c = '-') (s : List Char) :
    offset (c :: s) = (fixedDigits? 2 s).elim .wrong fun x => offsetAfter x.1 x.2 := by
  have hZ : ¬ c = 'Z' := by
    rintro rfl
    revert hc
    decide
  have hz : ¬ c = 'z' := by
    rintro rfl
    revert hc
    decide
  cases hhour : fixedDigits? 2 s with
  | none => simp [offset, hc, hhour]
  | some x =>
    obtain ⟨hour, _ | ⟨d, s⟩⟩ := x
    · simp [offset, hc, hhour, offsetAfter]
    · by_cases hd : d = ':'
      · subst hd
        simp only [offset, if_pos hc, hhour, Option.elim_some, offsetAfter]
        cases fixedDigits? 2 s <;> rfl
      · simp [offset, hc, hhour, offsetAfter, hd]

theorem datedAlike_offset (h : GoesOn t s u) : DatedAlike t (offset s) (offset u) := by
  obtain ⟨c, s, u, rfl, rfl⟩ := h.exists_cons
  by_cases hZ : c = 'Z'
  · subst hZ
    exact .done (h.tail (by decide))
  by_cases hz : c = 'z'
  · subst hz
    exact .done (h.tail (by decide))
  by_cases hsign : c = '+' ∨ c = '-'
  · have hne : c ≠ '\n' := by
      rintro rfl
      revert hsign
      decide
    rw [offset_sign hsign, offset_sign hsign]
    refine .elim (rel_fixedDigits? 2 (h.tail hne)) .wrong ?_
    rintro ⟨hour, r⟩ ⟨_, v⟩ ⟨rfl, hr⟩
    obtain ⟨c, r, v, rfl, rfl⟩ := hr.exists_cons
    by_cases hc : c = ':'
    · subst hc
      refine .elim (rel_fixedDigits? 2 (hr.tail (by decide))) .wrong ?_
      rintro ⟨minute, r⟩ ⟨_, v⟩ ⟨rfl, hr⟩
      dsimp only
      split
      case isTrue => exact .done hr
      case isFalse => exact .wrong
    · have hwrong (s : List Char) : offsetAfter hour (c :: s) = .wrong := by simp [offsetAfter, hc]
      rw [hwrong, hwrong]
      exact .wrong
  · have hself (s : List Char) : offset (c :: s) = .done (c :: s) := by
      simp [offset, hsign]
    rw [hself, hself]
    exact .done h

/-- What may follow a day: a time of day, unless it is none. -/
def dateAfter : List Char → Dated
  | c :: rest =>
    if c = 'T' ∨ c = 't' ∨ c = ' ' then
      match time rest with
      | .absent => .done (c :: rest)
      | .wrong => .wrong
      | .done rest => offset rest
    else .done (c :: rest)
  | [] => .done []

theorem datedAlike_dateAfter (h : GoesOn t s u) : DatedAlike t (dateAfter s) (dateAfter u) := by
  obtain ⟨c, s, u, rfl, rfl⟩ := h.exists_cons
  rw [dateAfter, dateAfter]
  split
  case isTrue hc =>
    have hne : c ≠ '\n' := by
      rintro rfl
      revert hc
      decide
    have htime := datedAlike_time (h.tail hne)
    generalize time s = a at htime ⊢
    generalize time u = b at htime ⊢
    cases htime with
    | absent => exact .done h
    | wrong => exact .wrong
    | done hr => exact datedAlike_offset hr
  case isFalse => exact .done h

/-- A date after its year, if what is read is one. -/
def yearAfter (year : Nat) (s rest : List Char) : Dated :=
  match rest with
  | '-' :: rest => (monthDay? year rest).elim .wrong dateAfter
  | _ => time s

theorem datetime_eq (s : List Char) :
    datetime s = (fixedDigits? 4 s).elim (time s) fun x => yearAfter x.1 s x.2 := by
  rw [datetime]
  cases fixedDigits? 4 s with
  | none => rfl
  | some x =>
    obtain ⟨year, _ | ⟨c, r⟩⟩ := x
    · rfl
    · by_cases hc : c = '-'
      · subst hc
        simp only [Option.elim_some, yearAfter]
        cases monthDay? year r with
        | none => rfl
        | some r => cases r <;> rfl
      · simp [yearAfter, hc]

theorem datedAlike_datetime (h : GoesOn t s u) : DatedAlike t (datetime s) (datetime u) := by
  rw [datetime_eq, datetime_eq]
  refine .elim (rel_fixedDigits? 4 h) (datedAlike_time h) ?_
  rintro ⟨year, r⟩ ⟨_, v⟩ ⟨rfl, hr⟩
  obtain ⟨c, r, v, rfl, rfl⟩ := hr.exists_cons
  by_cases hc : c = '-'
  · subst hc
    exact .elim (rel_monthDay? year (hr.tail (by decide))) .wrong fun _ _ => datedAlike_dateAfter
  · have htime (s r : List Char) : yearAfter year s (c :: r) = time s := by simp [yearAfter, hc]
    rw [htime, htime]
    exact datedAlike_time h

theorem rel_numeric? (h : GoesOn t s u) : Option.Rel (Tied t) (numeric? s) (numeric? u) := by
  have hdated := datedAlike_datetime h
  rw [numeric?, numeric?]
  generalize datetime s = a at hdated ⊢
  generalize datetime u = b at hdated ⊢
  cases hdated with
  | wrong => exact .none
  | done hr => exact .some ⟨rfl, hr⟩
  | absent =>
    dsimp only
    rw [isFloat_eq h]
    split
    case isTrue => exact rel_float? h
    case isFalse =>
      obtain ⟨hs, hu⟩ | ⟨x, y, hs, hu, hrest⟩ := rel_cases (rel_specialFloat? h)
      · rw [hs, hu]
        exact rel_integer? h
      · rw [hs, hu]
        exact .some hrest

end ImportWeb.Toml
