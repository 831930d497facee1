import Mathlib.Data.List.TakeWhile
import ImportWeb.Pattern.Parser

/-!
Reading a pattern with a closing parenthesis after it. Every part of the reader comes to the same
on a text and on that text with a parenthesis after it, up to what is left of it; the parenthesis
itself may be swallowed by a comment. Where a part fails at the end of the text and reads on into
the parenthesis, nothing can follow.
-/

namespace ImportWeb.Pattern.Reader

open Text

/-! ### Texts and results side by side -/

/-- The second text is the first one with a closing parenthesis after it; once a comment has
swallowed the parenthesis, both are at their end. -/
inductive Shut : List Char → List Char → Prop
  | parenthesis (s : List Char) : Shut s (s ++ [')'])
  | swallowed : Shut [] []

/-- What is left of two texts side by side. -/
structure Rests (s t r u : List Char) : Prop where
  shut : Shut r u
  le : r.length ≤ s.length
  le' : u.length ≤ t.length

/-- Results of reading two texts side by side: both fail, both succeed with the `same`, or only
the second one succeeds, with something that is `lost`. -/
inductive Parallel {α : Type} (same : α → α → Prop) (lost : α → Prop) : Option α → Option α → Prop
  | none : Parallel same lost .none .none
  | some {x y : α} (h : same x y) : Parallel same lost (.some x) (.some y)
  | lost {y : α} (h : lost y) : Parallel same lost .none (.some y)

variable {f : Flags} {s t r u : List Char} {c : Char}

theorem Shut.refl_or (h : Shut [] t) : t = [')'] ∨ t = [] := by
  cases h with
  | parenthesis => exact .inl rfl
  | swallowed => exact .inr rfl

theorem Shut.eq_append (h : Shut s t) (hs : s ≠ []) : t = s ++ [')'] := by
  cases h with
  | parenthesis => rfl
  | swallowed => exact absurd rfl hs

theorem Shut.exists_cons (h : Shut (c :: s) t) : ∃ t', t = c :: t' ∧ Shut s t' := by
  cases h
  exact ⟨_, rfl, .parenthesis s⟩

theorem Shut.exists_cons_left (h : Shut s (c :: t)) (hc : c ≠ ')') :
    ∃ s', s = c :: s' ∧ Shut s' t := by
  cases s with
  | nil =>
    rcases h.refl_or with heq | heq
    · exact absurd (List.cons.inj heq).1 hc
    · cases heq
  | cons d s =>
    obtain ⟨t', heq, hs⟩ := h.exists_cons
    obtain ⟨rfl, rfl⟩ := List.cons.inj heq
    exact ⟨s, rfl, hs⟩

/-- Where the first text does not start with a character, the second one does not either. -/
theorem Shut.ne_cons (h : Shut s t) (hc : c ≠ ')') (hne : ∀ r, s ≠ c :: r) (u : List Char) :
    t ≠ c :: u := by
  rintro rfl
  obtain ⟨r, rfl, -⟩ := h.exists_cons_left hc
  exact hne r rfl

theorem Shut.rests (h : Shut s t) : Rests s t s t := ⟨h, Nat.le_refl _, Nat.le_refl _⟩

theorem Rests.tail (h : Shut s t) : Rests (c :: s) (c :: t) s t :=
  ⟨h, Nat.le_succ _, Nat.le_succ _⟩

theorem Rests.trans {s' t' : List Char} (h : Rests s t s' t') (h' : Rests s' t' r u) :
    Rests s t r u := ⟨h'.shut, Nat.le_trans h'.le h.le, Nat.le_trans h'.le' h.le'⟩

/-- The fuel for a text is enough for what comes after its first character. -/
theorem Rests.fuel (h : Rests s t r u) {fuel : Nat} (hfuel : (c :: s).length < fuel + 1) :
    r.length < fuel := Nat.lt_of_le_of_lt h.le (Nat.lt_of_succ_lt_succ hfuel)

theorem Rests.fuel' (h : Rests s t r u) {fuel : Nat} (hfuel : (c :: t).length < fuel + 1) :
    u.length < fuel := Nat.lt_of_le_of_lt h.le' (Nat.lt_of_succ_lt_succ hfuel)

theorem Parallel.bind {α β : Type} {same : α → α → Prop} {lost : α → Prop} {same' : β → β → Prop}
    {lost' : β → Prop} {a b : Option α} {k k' : α → Option β} (h : Parallel same lost a b)
    (hsame : ∀ x y, same x y → Parallel same' lost' (k x) (k' y))
    (hlost : ∀ y, lost y → Parallel same' lost' .none (k' y)) :
    Parallel same' lost' (a >>= k) (b >>= k') := by
  cases h with
  | none => exact .none
  | some h => exact hsame _ _ h
  | lost h => exact hlost _ h

theorem Parallel.map {α β : Type} {same : α → α → Prop} {lost : α → Prop} {same' : β → β → Prop}
    {lost' : β → Prop} {a b : Option α} {k : α → β} (h : Parallel same lost a b)
    (hsame : ∀ x y, same x y → same' (k x) (k y)) (hlost : ∀ y, lost y → lost' (k y)) :
    Parallel same' lost' (a.map k) (b.map k) := by
  cases h with
  | none => exact .none
  | some h => exact .some (hsame _ _ h)
  | lost h => exact .lost (hlost _ h)

theorem Parallel.imp {α : Type} {same same' : α → α → Prop} {lost lost' : α → Prop}
    {a b : Option α} (h : Parallel same lost a b) (hsame : ∀ x y, same x y → same' x y)
    (hlost : ∀ y, lost y → lost' y) : Parallel same' lost' a b := by
  cases h with
  | none => exact .none
  | some h => exact .some (hsame _ _ h)
  | lost h => exact .lost (hlost _ h)

/-- Results that agree but where nothing is lost agree whatever is lost. -/
theorem Parallel.never {α : Type} {same : α → α → Prop} {lost : α → Prop} {a b : Option α}
    (h : Parallel same (fun _ => False) a b) : Parallel same lost a b :=
  h.imp (fun _ _ => id) (fun _ => False.elim)

/-- Two results with the same first part, and what is left of the two texts. -/
def Tied {α : Type} (s t : List Char) (x y : α × List Char) : Prop :=
  x.1 = y.1 ∧ Rests s t x.2 y.2

/-- Two results with the same first two parts, and what is left of the two texts. -/
def TiedPair {α β : Type} (s t : List Char) (x y : α × β × List Char) : Prop :=
  x.1 = y.1 ∧ Tied s t x.2 y.2

theorem Tied.after {α : Type} {x y : α × List Char} (h : Tied r u x y) (hrests : Rests s t r u) :
    Tied s t x y := ⟨h.1, hrests.trans h.2⟩

theorem Parallel.after {α : Type} {lost : α × List Char → Prop} {a b : Option (α × List Char)}
    (h : Parallel (Tied r u) lost a b) (hrests : Rests s t r u) : Parallel (Tied s t) lost a b :=
  h.imp (fun _ _ hxy => hxy.after hrests) (fun _ => id)

theorem Parallel.after_pair {α β : Type} {lost : α × β × List Char → Prop}
    {a b : Option (α × β × List Char)} (h : Parallel (TiedPair r u) lost a b)
    (hrests : Rests s t r u) : Parallel (TiedPair s t) lost a b :=
  h.imp (fun _ _ hxy => ⟨hxy.1, hxy.2.after hrests⟩) (fun _ => id)

/-! ### Space and comments -/

theorem shut_skipVerbose (h : Shut s t) (inComment : Bool) :
    Shut (skipVerbose inComment s) (skipVerbose inComment t) := by
  induction s generalizing t inComment with
  | nil =>
    rcases h.refl_or with rfl | rfl
    · cases inComment
      · exact .parenthesis []
      · exact .swallowed
    · exact .swallowed
  | cons c s ih =>
    obtain ⟨t, rfl, hs⟩ := h.exists_cons
    simp only [skipVerbose]
    split
    · exact ih hs _
    · split
      · exact ih hs _
      · split
        · exact ih hs _
        · exact h

theorem length_skipVerbose_le (inComment : Bool) (s : List Char) :
    (skipVerbose inComment s).length ≤ s.length := by
  induction s generalizing inComment with
  | nil => exact Nat.le_refl _
  | cons c s ih =>
    simp only [skipVerbose, List.length_cons]
    split
    · exact Nat.le_succ_of_le (ih _)
    · split
      · exact Nat.le_succ_of_le (ih _)
      · split
        · exact Nat.le_succ_of_le (ih _)
        · exact Nat.le_refl _

theorem length_skip_le (f : Flags) (s : List Char) : (skip f s).length ≤ s.length := by
  rw [skip]
  split
  · exact length_skipVerbose_le _ _
  · exact Nat.le_refl _

theorem Shut.skip (h : Shut s t) (f : Flags) : Rests s t (skip f s) (skip f t) := by
  refine ⟨?_, length_skip_le f s, length_skip_le f t⟩
  unfold Reader.skip
  split
  · exact shut_skipVerbose h _
  · exact h

theorem Rests.skip (h : Rests s t r u) (f : Flags) : Rests s t (skip f r) (skip f u) :=
  h.trans (h.shut.skip f)

theorem shut_trimStart (h : Shut s t) : Shut (trimStart s) (trimStart t) := by
  induction s generalizing t with
  | nil =>
    rcases h.refl_or with rfl | rfl
    · exact .parenthesis []
    · exact .swallowed
  | cons c s ih =>
    obtain ⟨t, rfl, hs⟩ := h.exists_cons
    simp only [trimStart, List.dropWhile_cons]
    split
    · exact ih hs
    · exact h

theorem Shut.trimStart (h : Shut s t) : Rests s t (trimStart s) (trimStart t) :=
  ⟨shut_trimStart h, (List.dropWhile_suffix _).length_le, (List.dropWhile_suffix _).length_le⟩

/-! ### Repetitions -/

theorem tied_digits {fuel fuel' : Nat} (done : List Char) (h : Shut s t) (hfuel : s.length < fuel)
    (hfuel' : t.length < fuel') :
    Tied s t (count?.digits f fuel done s) (count?.digits f fuel' done t) := by
  induction fuel generalizing fuel' s t done with
  | zero => omega
  | succ fuel ih =>
    obtain ⟨fuel', rfl⟩ := Nat.exists_eq_add_one_of_ne_zero (Nat.ne_zero_of_lt hfuel')
    cases s with
    | nil =>
      rcases h.refl_or with rfl | rfl
      · exact ⟨rfl, h.rests⟩
      · exact ⟨rfl, h.rests⟩
    | cons c s =>
      obtain ⟨t, rfl, hs⟩ := h.exists_cons
      simp only [count?.digits]
      split
      · have hskip := hs.skip f
        have htied := ih (c :: done) hskip.shut (hskip.fuel hfuel) (hskip.fuel' hfuel')
        exact htied.after ((Rests.tail hs).trans hskip)
      · exact ⟨rfl, h.rests⟩

theorem rests_blanks {fuel fuel' : Nat} (h : Shut s t) (hfuel : s.length < fuel)
    (hfuel' : t.length < fuel') :
    Rests s t (count?.blanks f fuel s) (count?.blanks f fuel' t) := by
  induction fuel generalizing fuel' s t with
  | zero => omega
  | succ fuel ih =>
    obtain ⟨fuel', rfl⟩ := Nat.exists_eq_add_one_of_ne_zero (Nat.ne_zero_of_lt hfuel')
    cases s with
    | nil =>
      rcases h.refl_or with rfl | rfl
      · exact h.rests
      · exact h.rests
    | cons c s =>
      obtain ⟨t, rfl, hs⟩ := h.exists_cons
      simp only [count?.blanks]
      split
      · have hskip := hs.skip f
        have hrests := ih hskip.shut (hskip.fuel hfuel) (hskip.fuel' hfuel')
        exact ((Rests.tail hs).trans hskip).trans hrests
      · exact h.rests

theorem parallel_count? (h : Shut s t) :
    Parallel (Tied s t) (fun _ => False) (count? f s) (count? f t) := by
  have htrim := h.trimStart
  have htied := tied_digits (f := f) [] htrim.shut (Nat.lt_succ_self _) (Nat.lt_succ_self _)
  unfold count?
  dsimp only
  rw [htied.1]
  split
  · exact .none
  · have hrests := htrim.trans htied.2
    exact .some ⟨rfl, hrests.trans
      (rests_blanks hrests.shut (Nat.lt_succ_self _) (Nat.lt_succ_self _))⟩

/-- Without a number there are no bounds. -/
theorem bounds?_eq_none (h : skip f s = [] ∨ skip f s = [')']) : bounds? f s = none := by
  rcases h with h | h <;> rw [bounds?, h] <;> rfl

theorem parallel_closeBounds? (min : Nat) (max : Option Nat) (h : Rests s t r u) :
    Parallel (TiedPair s t) (fun _ => False) (closeBounds? f min max r)
      (closeBounds? f min max u) := by
  unfold closeBounds?
  split
  case h_1 =>
    obtain ⟨u, rfl, hu⟩ := h.shut.exists_cons
    exact .some ⟨rfl, rfl, (h.trans (.tail hu)).skip f⟩
  case h_2 hne =>
    split
    case h_1 =>
      exact absurd rfl (h.shut.ne_cons (by decide) hne _)
    case h_2 => exact .none

theorem parallel_upperBound? (min : Nat) (h : Rests s t r u) :
    Parallel (TiedPair s t) (fun _ => False) (upperBound? f min r) (upperBound? f min u) := by
  unfold upperBound?
  split
  case h_1 =>
    obtain ⟨u, rfl, hu⟩ := h.shut.exists_cons
    exact .some ⟨rfl, rfl, (h.trans (.tail hu)).skip f⟩
  case h_2 hne =>
    split
    case h_1 =>
      exact absurd rfl (h.shut.ne_cons (by decide) hne _)
    case h_2 =>
      refine (parallel_count? h.shut).bind ?_ (fun _ => False.elim)
      rintro ⟨max, r⟩ ⟨_, u⟩ ⟨rfl, hrests⟩
      dsimp only
      split
      · exact parallel_closeBounds? min _ (h.trans hrests)
      · exact .none

theorem parallel_bounds? (h : Shut s t) :
    Parallel (TiedPair s t) (fun _ => False) (bounds? f s) (bounds? f t) := by
  have hskip := h.skip f
  refine (parallel_count? hskip.shut).bind ?_ (fun _ => False.elim)
  rintro ⟨min, r⟩ ⟨_, u⟩ ⟨rfl, hrests⟩
  replace hrests := hskip.trans hrests
  dsimp only at hrests ⊢
  split
  case h_1 =>
    obtain ⟨u, rfl, hu⟩ := hrests.shut.exists_cons
    exact parallel_upperBound? min ((hrests.trans (.tail hu)).skip f)
  case h_2 hne =>
    split
    case h_1 =>
      exact absurd rfl (hrests.shut.ne_cons (by decide) hne _)
    case h_2 => exact parallel_closeBounds? min _ hrests

theorem tied_greed (h : Shut s t) : Tied s t (greed f s) (greed f t) := by
  unfold greed
  split
  case h_1 =>
    obtain ⟨t, rfl, hs⟩ := h.exists_cons
    exact ⟨rfl, .tail hs⟩
  case h_2 hne =>
    split
    case h_1 =>
      exact absurd rfl (h.ne_cons (by decide) hne _)
    case h_2 => exact ⟨rfl, h.rests⟩

/-! ### Groups -/

theorem takeWhile_append_cons {stop : Char} {before : List Char} (h : stop ∉ before)
    (after : List Char) : (before ++ stop :: after).takeWhile (· != stop) = before := by
  have hne : ∀ d ∈ before, (d != stop) = true := by
    intro d hd
    rw [bne_iff_ne]
    rintro rfl
    exact h hd
  rw [List.takeWhile_append_of_pos hne, List.takeWhile_cons_of_neg (by simp), List.append_nil]

theorem takeWhile_of_not_mem {stop : Char} (h : stop ∉ s) : s.takeWhile (· != stop) = s := by
  rw [List.takeWhile_eq_self_iff]
  intro d hd
  rw [bne_iff_ne]
  rintro rfl
  exact h hd

/-- Up to a mark that is no parenthesis, two texts are the same. -/
theorem Shut.cases_mark (h : Shut s t) {stop : Char} (hstop : stop ≠ ')') :
    (∃ before after, stop ∉ before ∧ s = before ++ stop :: after ∧
      t = before ++ stop :: (after ++ [')'])) ∨ stop ∉ s ∧ stop ∉ t := by
  by_cases hs : stop ∈ s
  · obtain ⟨before, after, rfl, hbefore⟩ := List.eq_append_cons_of_mem hs
    exact .inl ⟨before, after, hbefore, rfl, by rw [h.eq_append (by simp)]; simp⟩
  · refine .inr ⟨hs, ?_⟩
    cases h with
    | parenthesis => simp [hs, hstop]
    | swallowed => exact hs

theorem rests_from (before : List Char) (stop : Char) (after : List Char) :
    Rests (before ++ stop :: after) (before ++ stop :: (after ++ [')'])) (stop :: after)
      (stop :: (after ++ [')'])) where
  shut := .parenthesis (stop :: after)
  le := by simp
  le' := by simp

theorem groupName?_append_cons {name : List Char} (h : '>' ∉ name) (after : List Char) :
    groupName? (name ++ '>' :: after) =
      if name.head?.any isNameStart && name.tail.all isNameChar then some (name, after)
      else none := by
  unfold groupName?
  dsimp only
  rw [takeWhile_append_cons h, List.drop_left]
  cases name <;> rfl

theorem groupName?_of_not_mem (h : '>' ∉ s) : groupName? s = none := by
  unfold groupName?
  dsimp only
  rw [takeWhile_of_not_mem h, List.drop_length]
  cases s <;> rfl

theorem parallel_groupName? (h : Shut s t) :
    Parallel (Tied s t) (fun _ => False) (groupName? s) (groupName? t) := by
  rcases h.cases_mark (by decide : '>' ≠ ')') with ⟨name, after, hname, rfl, rfl⟩ | ⟨hs, ht⟩
  · rw [groupName?_append_cons hname, groupName?_append_cons hname]
    split
    · exact .some ⟨rfl, (rests_from name '>' after).trans (.tail (.parenthesis after))⟩
    · exact .none
  · rw [groupName?_of_not_mem hs, groupName?_of_not_mem ht]
    exact .none

theorem parallel_flags? (on : Bool) (seen : List Char) (h : Shut s t) :
    Parallel (TiedPair s t) (·.2.2 = [')']) (flags? f on seen s) (flags? f on seen t) := by
  induction s generalizing f on seen t with
  | nil =>
    rcases h.refl_or with rfl | rfl
    · unfold flags?
      rw [if_pos (.inr rfl)]
      split
      · exact .none
      · exact .lost rfl
    · exact .none
  | cons c s ih =>
    obtain ⟨t, rfl, hs⟩ := h.exists_cons
    have hmore {f : Flags} (on : Bool) (seen : List Char) :
        Parallel (TiedPair (c :: s) (c :: t)) (·.2.2 = [')']) (flags? f on seen s)
          (flags? f on seen t) := (ih on seen hs).after_pair (.tail hs)
    unfold flags?
    split
    · split
      · exact .none
      · exact .some ⟨rfl, rfl, h.rests⟩
    · split
      · exact .none
      · split
        · exact hmore false _
        · split
          · exact hmore on _
          · exact .none

theorem parallel_flagOpening? (h : Shut s t) :
    Parallel (Tied s t) (·.2 = []) (flagOpening? f s) (flagOpening? f t) := by
  refine (parallel_flags? true [] h).bind ?_ ?_
  · rintro ⟨inner, changed, r⟩ ⟨_, _, u⟩ ⟨rfl, rfl, hrests⟩
    dsimp only at hrests ⊢
    cases r with
    | nil =>
      rcases hrests.shut.refl_or with rfl | rfl
      · cases changed
        · exact .none
        · exact .lost rfl
      · exact .none
    | cons c r =>
      obtain ⟨u, rfl, hu⟩ := hrests.shut.exists_cons
      dsimp only
      split
      · exact .some ⟨rfl, hrests.trans (.tail hu)⟩
      · split
        · exact .some ⟨rfl, hrests.trans (.tail hu)⟩
        · exact .none
  · rintro ⟨inner, changed, u⟩ hu
    dsimp only at hu ⊢
    subst hu
    cases changed
    · exact .none
    · exact .lost rfl

theorem parallel_specialOpening? (h : Shut s t) :
    Parallel (Tied s t) (·.2 = []) (specialOpening? f s) (specialOpening? f t) := by
  have hname {r u : List Char} (hrests : Rests s t r u) :
      Parallel (Tied s t) (·.2 = [])
        ((groupName? r).map fun x => (Opening.capture (some x.1), x.2))
        ((groupName? u).map fun x => (Opening.capture (some x.1), x.2)) :=
    (parallel_groupName? hrests.shut).map
      (fun _ _ hxy => ⟨congrArg (Opening.capture ∘ some) hxy.1, hrests.trans hxy.2⟩)
      (fun _ => False.elim)
  unfold specialOpening?
  split
  case h_1 =>
    obtain ⟨t, rfl, ht⟩ := h.exists_cons
    obtain ⟨t, rfl, ht'⟩ := ht.exists_cons
    exact hname ((Rests.tail ht).trans (.tail ht'))
  case h_2 =>
    obtain ⟨t, rfl, ht⟩ := h.exists_cons
    exact hname (.tail ht)
  case h_3 hne hne' =>
    split
    case h_1 =>
      obtain ⟨s, rfl, hs⟩ := h.exists_cons_left (by decide)
      obtain ⟨s, rfl, -⟩ := hs.exists_cons_left (by decide)
      exact absurd rfl (hne s)
    case h_2 =>
      exact absurd rfl (h.ne_cons (by decide) hne' _)
    case h_3 => exact parallel_flagOpening? h

theorem parallel_opening? (h : Shut s t) :
    Parallel (Tied s t) (·.2 = []) (opening? f s) (opening? f t) := by
  have hskip := h.skip f
  unfold opening?
  generalize skip f s = r at hskip ⊢
  generalize skip f t = u at hskip ⊢
  split
  case h_1 =>
    obtain ⟨u, rfl, hu⟩ := hskip.shut.exists_cons
    exact (parallel_specialOpening? hu).after (hskip.trans (.tail hu))
  case h_2 hne =>
    split
    case h_1 =>
      exact absurd rfl (hskip.shut.ne_cons (by decide) hne _)
    case h_2 => exact .some ⟨rfl, hskip⟩

end ImportWeb.Pattern.Reader
