import ImportWeb.Proofs.Pattern.Reader

/-!
Reading the items of a pattern with a closing parenthesis after it: escapes and classes. Where an
item takes the parenthesis for a part of itself, the pattern ends too soon.
-/

namespace ImportWeb.Pattern.Reader

open Text

variable {f : Flags} {s t r u : List Char} {c : Char}

/-- A text after which a pattern with an open group is wrong: nothing is left, or only the brace
of a repetition without a number. -/
def Dead (f : Flags) (s : List Char) : Prop :=
  s = [] ∨ ∃ r, s = '\x7b' :: r ∧ (skip f r = [] ∨ skip f r = [')'])

theorem skip_brace (f : Flags) (s : List Char) : skip f ('\x7b' :: s) = '\x7b' :: s := by
  unfold skip
  split <;> rfl

theorem skip_parenthesis (f : Flags) (s : List Char) : skip f (')' :: s) = ')' :: s := by
  unfold skip
  split <;> rfl

@[simp] theorem skip_nil (f : Flags) : skip f [] = [] := by
  unfold skip
  split <;> rfl

/-- An item after which nothing can follow: it took the parenthesis or is a word boundary before
such a brace. -/
structure Overrun (f : Flags) (y : Primitive × List Char) : Prop where
  dead : Dead f y.2
  or_look : y.2 = [] ∨ ∃ l, y.1 = .look l

theorem Overrun.of_nil {y : Primitive × List Char} (h : y.2 = []) : Overrun f y := ⟨.inl h, .inl h⟩

theorem Dead.skip_eq (h : Dead f s) : skip f s = s := by
  rcases h with rfl | ⟨r, rfl, -⟩
  · exact skip_nil f
  · exact skip_brace f r

/-! ### Escapes -/

theorem parallel_hexDigits? (value n : Nat) (h : Shut s t) :
    Parallel (Tied s t) (fun _ => False) (hexDigits? f value n s) (hexDigits? f value n t) := by
  induction n generalizing value s t with
  | zero => exact .some ⟨rfl, h.rests⟩
  | succ n ih =>
    cases s with
    | nil => rcases h.refl_or with rfl | rfl <;> exact .none
    | cons c s =>
      obtain ⟨t, rfl, hs⟩ := h.exists_cons
      have hskip := (Rests.tail (c := c) hs).skip f
      simp only [hexDigits?]
      cases hexDigit? c with
      | none => exact .none
      | some digit =>
        exact (ih _ hskip.shut).after hskip

theorem parallel_hexBraced? {fuel fuel' : Nat} (value : Option Nat) (h : Shut s t)
    (hfuel : s.length < fuel) (hfuel' : t.length < fuel') :
    Parallel (Tied s t) (fun _ => False) (hexBraced? f fuel value s)
      (hexBraced? f fuel' value t) := by
  induction fuel generalizing fuel' value s t with
  | zero => omega
  | succ fuel ih =>
    obtain ⟨fuel', rfl⟩ := Nat.exists_eq_add_one_of_ne_zero (Nat.ne_zero_of_lt hfuel')
    cases s with
    | nil => rcases h.refl_or with rfl | rfl <;> exact .none
    | cons c s =>
      obtain ⟨t, rfl, hs⟩ := h.exists_cons
      have hskip := hs.skip f
      have hrests := (Rests.tail (c := c) hs).trans hskip
      simp only [hexBraced?]
      split
      · cases value with
        | none => exact .none
        | some value => exact .some ⟨rfl, hrests⟩
      · cases hexDigit? c with
        | none => exact .none
        | some digit =>
          dsimp only [bind, Option.bind]
          split
          · exact (ih _ hskip.shut (hskip.fuel hfuel) (hskip.fuel' hfuel')).after hrests
          · exact .none

theorem parallel_literal (byte : Nat → Option Nat) {x y : Nat × List Char} (h : Tied s t x y) :
    Parallel (Tied s t) (fun _ => False)
      (do return (Primitive.literal (← char? x.1) (byte x.1), x.2))
      (do return (Primitive.literal (← char? y.1) (byte y.1), y.2)) := by
  rw [← h.1]
  cases char? x.1 with
  | none => exact .none
  | some c => exact .some ⟨rfl, h.2⟩

theorem parallel_hexFixed? (letter : Char) (h : Shut s t) :
    Parallel (Tied s t) (fun _ => False) (hexFixed? f letter s) (hexFixed? f letter t) :=
  (parallel_hexDigits? 0 _ h).bind
    (fun _ _ hxy => parallel_literal (fun n => if letter = 'x' then some n else none) hxy)
    (fun _ => False.elim)

theorem parallel_hex? (letter : Char) (h : Shut s t) :
    Parallel (Tied s t) (fun _ => False) (hex? f letter s) (hex? f letter t) := by
  have hskip := h.skip f
  unfold hex?
  generalize skip f s = r at hskip ⊢
  generalize skip f t = u at hskip ⊢
  split
  case h_1 =>
    obtain ⟨u, rfl, hu⟩ := hskip.shut.exists_cons
    have hrests := (hskip.trans (.tail hu)).skip f
    refine (parallel_hexBraced? none hrests.shut (Nat.lt_succ_of_le (length_skip_le f _))
      (Nat.lt_succ_of_le (length_skip_le f _))).bind ?_ (fun _ => False.elim)
    exact fun x y hxy => parallel_literal (fun _ => none) ⟨hxy.1, hrests.trans hxy.2⟩
  case h_2 hne =>
    split
    case h_1 =>
      exact absurd rfl (hskip.shut.ne_cons (by decide) hne _)
    case h_2 =>
      exact (parallel_hexFixed? letter hskip.shut).after hskip

theorem parallel_nameUpTo? {stop : Char} (hstop : stop ≠ ')') {fuel fuel' : Nat}
    (done : List Char) (h : Shut s t) (hfuel : s.length < fuel) (hfuel' : t.length < fuel') :
    Parallel (Tied s t) (fun _ => False) (nameUpTo? f stop fuel done s)
      (nameUpTo? f stop fuel' done t) := by
  induction fuel generalizing fuel' done s t with
  | zero => omega
  | succ fuel ih =>
    obtain ⟨fuel', rfl⟩ := Nat.exists_eq_add_one_of_ne_zero (Nat.ne_zero_of_lt hfuel')
    cases s with
    | nil =>
      rcases h.refl_or with rfl | rfl
      · simp only [nameUpTo?, hstop.symm, if_false, skip_nil]
        cases fuel' <;> exact .none
      · exact .none
    | cons c s =>
      obtain ⟨t, rfl, hs⟩ := h.exists_cons
      have hskip := hs.skip f
      have hrests := (Rests.tail (c := c) hs).trans hskip
      simp only [nameUpTo?]
      split
      · exact .some ⟨rfl, .tail hs⟩
      · exact (ih _ hskip.shut (hskip.fuel hfuel) (hskip.fuel' hfuel')).after hrests

theorem parallel_className? (h : Shut s t) :
    Parallel (Tied s t) (·.2 = []) (className? f s) (className? f t) := by
  have hskip := h.skip f
  unfold className?
  generalize skip f s = r at hskip ⊢
  generalize skip f t = u at hskip ⊢
  cases r with
  | nil =>
    rcases hskip.shut.refl_or with rfl | rfl
    · exact .lost (skip_nil f)
    · exact .none
  | cons c r =>
    obtain ⟨u, rfl, hu⟩ := hskip.shut.exists_cons
    have hrests := (hskip.trans (.tail hu)).skip f
    dsimp only
    split
    · have hname := parallel_nameUpTo? (f := f) (by decide : '\x7d' ≠ ')') [] hrests.shut
        (Nat.lt_succ_of_le (length_skip_le f _)) (Nat.lt_succ_of_le (length_skip_le f _))
      exact hname.never.after hrests
    · split
      · exact .none
      · exact .some ⟨rfl, hrests⟩

theorem parallel_unicodeClass? (negated : Bool) (h : Shut s t) :
    Parallel (Tied s t) (·.2 = []) (unicodeClass? f negated s) (unicodeClass? f negated t) := by
  refine (parallel_className? h).bind ?_ ?_
  · rintro ⟨name, r⟩ ⟨_, u⟩ ⟨rfl, hrests⟩
    dsimp only
    cases unicodeSet? f negated name with
    | none => exact .none
    | some set => exact .some ⟨rfl, hrests⟩
  · rintro ⟨name, u⟩ hu
    dsimp only
    cases unicodeSet? f negated name with
    | none => exact .none
    | some set => exact .lost hu

theorem tied_boundaryName {fuel fuel' : Nat} (done : List Char) (h : Shut s t)
    (hfuel : s.length ≤ fuel) (hfuel' : t.length ≤ fuel') :
    Tied s t (boundaryName f fuel done s) (boundaryName f fuel' done t) := by
  induction fuel generalizing fuel' done s t with
  | zero =>
    obtain rfl := List.eq_nil_of_length_eq_zero (Nat.le_zero.1 hfuel)
    rcases h.refl_or with rfl | rfl
    · cases fuel' <;> exact ⟨rfl, h.rests⟩
    · cases fuel' <;> exact ⟨rfl, h.rests⟩
  | succ fuel ih =>
    cases s with
    | nil =>
      rcases h.refl_or with rfl | rfl
      · cases fuel' <;> exact ⟨rfl, h.rests⟩
      · cases fuel' <;> exact ⟨rfl, h.rests⟩
    | cons c s =>
      obtain ⟨t, rfl, hs⟩ := h.exists_cons
      obtain ⟨fuel', rfl⟩ : ∃ k, fuel' = k + 1 := ⟨fuel' - 1, by simp at hfuel'; omega⟩
      have hskip := hs.skip f
      simp only [boundaryName]
      split
      · have htied := ih (c :: done) hskip.shut
          (hskip.le.trans (Nat.le_of_succ_le_succ hfuel))
          (hskip.le'.trans (Nat.le_of_succ_le_succ hfuel'))
        exact htied.after ((Rests.tail hs).trans hskip)
      · exact ⟨rfl, h.rests⟩

theorem parallel_namedBoundary? (h : Shut s t) :
    Parallel (Tied s t) (fun _ => False) (namedBoundary? f s) (namedBoundary? f t) := by
  have htied := tied_boundaryName (f := f) [] h (Nat.le_refl _) (Nat.le_refl _)
  unfold namedBoundary?
  generalize boundaryName f s.length [] s = x at htied ⊢
  generalize boundaryName f t.length [] t = y at htied ⊢
  obtain ⟨name, r⟩ := x
  obtain ⟨_, u⟩ := y
  obtain ⟨rfl, hrests⟩ := htied
  dsimp only at hrests ⊢
  split
  case h_1 =>
    obtain ⟨u, rfl, hu⟩ := hrests.shut.exists_cons
    cases wordLook? f name with
    | none => exact .none
    | some l => exact .some ⟨rfl, hrests.trans (.tail hu)⟩
  case h_2 hne =>
    split
    case h_1 =>
      exact absurd rfl (hrests.shut.ne_cons (by decide) hne _)
    case h_2 => exact .none

/-- A brace that ends the text after a word boundary is left for a repetition, which fails. -/
theorem parallel_boundary? (h : Shut s t) :
    Parallel (Tied s t) (Overrun f) (boundary? f s) (boundary? f t) := by
  cases s with
  | nil => rcases h.refl_or with rfl | rfl <;> exact .some ⟨rfl, h.rests⟩
  | cons c s =>
    obtain ⟨t, rfl, ht⟩ := h.exists_cons
    have hrests := (Rests.tail (c := c) ht).skip f
    unfold boundary?
    dsimp only
    split
    case isFalse => exact .some ⟨rfl, h.rests⟩
    case isTrue hbrace =>
      cases hs : skip f s with
      | nil =>
        rcases (hs ▸ hrests.shut).refl_or with heq | heq <;> rw [heq]
        · exact .lost ⟨.inr ⟨t, by rw [hbrace], .inr heq⟩, .inr ⟨_, rfl⟩⟩
        · exact .none
      | cons d tail =>
        rw [hs] at hrests
        obtain ⟨tail', heq, -⟩ := hrests.shut.exists_cons
        rw [heq] at hrests ⊢
        dsimp only
        split
        · exact (parallel_namedBoundary? hrests.shut).never.after hrests
        · exact .some ⟨rfl, h.rests⟩

theorem parallel_escape? (h : Shut s t) :
    Parallel (Tied s t) (Overrun f) (escape? f s) (escape? f t) := by
  cases s with
  | nil =>
    rcases h.refl_or with rfl | rfl
    · exact .lost (.of_nil rfl)
    · exact .none
  | cons c s =>
    obtain ⟨t, rfl, hs⟩ := h.exists_cons
    have htail := Rests.tail (c := c) hs
    have hclass (negated : Bool) : Parallel (Tied s t) (Overrun f) (unicodeClass? f negated s)
        (unicodeClass? f negated t) :=
      (parallel_unicodeClass? negated hs).imp (fun _ _ => id) (fun _ => .of_nil)
    unfold escape?
    dsimp only
    split
    · exact (parallel_hex? _ hs).never.after htail
    · exact (parallel_hex? _ hs).never.after htail
    · exact (parallel_hex? _ hs).never.after htail
    · exact (hclass false).after htail
    · exact (hclass true).after htail
    · exact (parallel_boundary? hs).after htail
    · cases escaped? f c with
      | none => exact .none
      | some p => exact .some ⟨rfl, htail⟩

/-! ### Classes -/

/-- A text after which an open class is wrong: there is no closing bracket. -/
def Unclosed (s : List Char) : Prop := s = [] ∨ s = [')']

theorem tied_caret (h : Shut s t) : Tied s t (caret s) (caret t) := by
  unfold caret
  split
  case h_1 =>
    obtain ⟨t, rfl, ht⟩ := h.exists_cons
    exact ⟨rfl, .tail ht⟩
  case h_2 hne =>
    split
    case h_1 =>
      exact absurd rfl (h.ne_cons (by decide) hne _)
    case h_2 => exact ⟨rfl, h.rests⟩

theorem tied_hyphens {fuel fuel' : Nat} (o : OpenClass) (h : Shut s t) (hfuel : s.length ≤ fuel)
    (hfuel' : t.length ≤ fuel') :
    Tied s t (openClass?.hyphens f fuel o s) (openClass?.hyphens f fuel' o t) := by
  induction fuel generalizing fuel' o s t with
  | zero =>
    obtain rfl := List.eq_nil_of_length_eq_zero (Nat.le_zero.1 hfuel)
    rcases h.refl_or with rfl | rfl <;> cases fuel' <;> exact ⟨rfl, h.rests⟩
  | succ fuel ih =>
    cases s with
    | nil => rcases h.refl_or with rfl | rfl <;> cases fuel' <;> exact ⟨rfl, h.rests⟩
    | cons c s =>
      obtain ⟨t, rfl, ht⟩ := h.exists_cons
      obtain ⟨fuel', rfl⟩ : ∃ k, fuel' = k + 1 := ⟨fuel' - 1, by simp at hfuel'; omega⟩
      have hskip := ht.skip f
      by_cases hc : c = '-'
      · subst hc
        have htied := ih (o.add (.single 0x2D) 0) hskip.shut
          (hskip.le.trans (Nat.le_of_succ_le_succ hfuel))
          (hskip.le'.trans (Nat.le_of_succ_le_succ hfuel'))
        exact htied.after ((Rests.tail ht).trans hskip)
      · rw [openClass?.hyphens, openClass?.hyphens]
        · exact ⟨rfl, h.rests⟩
        · rintro _ _ - ⟨⟩
          exact hc rfl
        · rintro _ _ - ⟨⟩
          exact hc rfl

theorem parallel_firstBracket? (o : OpenClass) (h : Shut s t) :
    Parallel (Tied s t) (Unclosed ·.2) (firstBracket? f o s) (firstBracket? f o t) := by
  unfold firstBracket?
  cases s with
  | nil =>
    rcases h.refl_or with rfl | rfl
    · exact .lost (.inr rfl)
    · exact .none
  | cons c s =>
    obtain ⟨t, rfl, ht⟩ := h.exists_cons
    have hrests := (Rests.tail (c := c) ht).skip f
    dsimp only
    split
    case isFalse => exact .some ⟨rfl, h.rests⟩
    case isTrue =>
      cases hs : skip f s with
      | nil =>
        rcases (hs ▸ hrests.shut).refl_or with heq | heq <;> rw [heq]
        · exact .lost (.inr rfl)
        · exact .none
      | cons d tail =>
        rw [hs] at hrests
        obtain ⟨tail', heq, -⟩ := hrests.shut.exists_cons
        rw [heq] at hrests ⊢
        exact .some ⟨rfl, hrests⟩

theorem parallel_openClass? (h : Shut s t) :
    Parallel (Tied s t) (Unclosed ·.2) (openClass? f s) (openClass? f t) := by
  have hskip := h.skip f
  have hcaret := tied_caret hskip.shut
  have hrests := (hskip.trans hcaret.2).skip f
  have hhyphens := tied_hyphens (f := f) ⟨(caret (skip f s)).1, none, .empty, 0, 0, 0⟩ hrests.shut
    (Nat.le_refl _) (Nat.le_refl _)
  unfold openClass?
  dsimp only
  rw [← hcaret.1, ← hhyphens.1]
  exact (parallel_firstBracket? _ hhyphens.2.shut).after (hrests.trans hhyphens.2)

theorem parallel_afterName? (h : Shut s t) :
    Parallel (Rests s t) (fun _ => False) (afterName? s) (afterName? t) := by
  unfold afterName?
  split
  case h_1 =>
    obtain ⟨t, rfl, ht⟩ := h.exists_cons
    obtain ⟨t, rfl, ht'⟩ := ht.exists_cons
    exact .some ((Rests.tail ht).trans (.tail ht'))
  case h_2 hne =>
    split
    case h_1 =>
      obtain ⟨s, rfl, hs⟩ := h.exists_cons_left (by decide)
      obtain ⟨s, rfl, -⟩ := hs.exists_cons_left (by decide)
      exact absurd rfl (hne s)
    case h_2 => exact .none

theorem parallel_asciiName? (h : Shut s t) :
    Parallel (TiedPair s t) (fun _ => False) (asciiName? s) (asciiName? t) := by
  have hcaret := tied_caret h
  unfold asciiName?
  dsimp only
  rw [← hcaret.1]
  obtain ⟨-, hrests⟩ := hcaret
  generalize (caret s).1 = negated
  generalize (caret s).2 = r at hrests ⊢
  generalize (caret t).2 = u at hrests ⊢
  rcases hrests.shut.cases_mark (by decide : ':' ≠ ')') with
    ⟨name, after, hname, rfl, rfl⟩ | ⟨hr, hu⟩
  · rw [takeWhile_append_cons hname, takeWhile_append_cons hname, List.drop_left, List.drop_left]
    have hafter := hrests.trans (rests_from name ':' after)
    refine (parallel_afterName? hafter.shut).bind ?_ (fun _ => False.elim)
    intro r u hru
    cases CharSet.ofAsciiName? name with
    | none => exact .none
    | some set => exact .some ⟨rfl, rfl, hafter.trans hru⟩
  · rw [takeWhile_of_not_mem hr, takeWhile_of_not_mem hu, List.drop_length, List.drop_length]
    exact .none

theorem parallel_asciiClass? (h : Shut s t) :
    Parallel (TiedPair s t) (fun _ => False) (asciiClass? s) (asciiClass? t) := by
  unfold asciiClass?
  split
  case h_1 =>
    obtain ⟨t, rfl, ht⟩ := h.exists_cons
    exact (parallel_asciiName? ht).after_pair (.tail ht)
  case h_2 hne =>
    split
    case h_1 =>
      exact absurd rfl (h.ne_cons (by decide) hne _)
    case h_2 => exact .none

/-- An item takes at least one character. -/
theorem parallel_classItem? (c : Char) (h : Shut s t) :
    Parallel (Tied s t) (Overrun f) (classItem? f (c :: s)) (classItem? f (c :: t)) := by
  unfold classItem?
  dsimp only
  split
  · exact parallel_escape? h
  · exact .some ⟨rfl, h.rests⟩

theorem parallel_rangeTo? (first : Primitive) (c : Char) (h : Shut s t) :
    Parallel (Tied s t) (Unclosed ·.2) (rangeTo? f first (c :: s)) (rangeTo? f first (c :: t)) := by
  refine (parallel_classItem? c h).bind ?_ ?_
  · rintro ⟨last, r⟩ ⟨_, u⟩ ⟨rfl, hrests⟩
    dsimp only
    cases range? f first last with
    | none => exact .none
    | some set => exact .some ⟨rfl, hrests⟩
  · rintro ⟨last, u⟩ ⟨-, rfl | ⟨l, rfl⟩⟩
    · dsimp only
      cases range? f first last with
      | none => exact .none
      | some set => exact .lost (.inl rfl)
    · have hlook : range? f first (.look l) = none := by
        unfold range?
        cases classChar? f first <;> rfl
      simp only [hlook]
      exact .none

theorem parallel_rangeFrom? (first : Primitive) (h : Shut s t) :
    Parallel (Tied s t) (Unclosed ·.2) (rangeFrom? f first s) (rangeFrom? f first t) := by
  unfold rangeFrom?
  dsimp only
  cases s with
  | nil =>
    rcases h.refl_or with rfl | rfl
    · dsimp only
      rw [if_neg (by decide)]
      cases classItemSet? f first with
      | none => exact .none
      | some set => exact .lost (.inr rfl)
    · exact .none
  | cons c s =>
    obtain ⟨t, rfl, ht⟩ := h.exists_cons
    have hsingle : Parallel (Tied (c :: s) (c :: t)) (Unclosed ·.2)
        ((classItemSet? f first).map (·, c :: s)) ((classItemSet? f first).map (·, c :: t)) := by
      cases classItemSet? f first with
      | none => exact .none
      | some set => exact .some ⟨rfl, h.rests⟩
    dsimp only
    split
    case isFalse => exact hsingle
    case isTrue =>
      have hrests := (Rests.tail (c := c) ht).skip f
      cases hs : skip f s with
      | nil =>
        rcases (hs ▸ hrests.shut).refl_or with heq | heq <;> rw [heq]
        · dsimp only
          rw [if_neg (by decide)]
          change Parallel _ _ none ((range? f first (.literal ')' none)).map (·, []))
          cases range? f first (.literal ')' none) with
          | none => exact .none
          | some set => exact .lost (.inl rfl)
        · exact .none
      | cons d tail =>
        rw [hs] at hrests
        obtain ⟨tail', heq, htail⟩ := hrests.shut.exists_cons
        rw [heq] at hrests ⊢
        dsimp only
        split
        · exact hsingle
        · exact (parallel_rangeTo? first d htail).after (hrests.trans (.tail htail))

theorem rangeFrom?_of_overrun {y : Primitive × List Char} (h : Overrun f y) :
    rangeFrom? f y.1 (skip f y.2) = none := by
  rw [h.dead.skip_eq]
  rcases h with ⟨hnil | ⟨r, hr, -⟩, hy⟩
  · rw [hnil]
    rfl
  · obtain ⟨l, hl⟩ := hy.resolve_left (by simp [hr])
    rw [hr, hl]
    rfl

theorem parallel_classRange? (c : Char) (h : Shut s t) :
    Parallel (Tied s t) (Unclosed ·.2) (classRange? f (c :: s)) (classRange? f (c :: t)) := by
  refine (parallel_classItem? c h).bind ?_ ?_
  · rintro ⟨first, r⟩ ⟨_, u⟩ ⟨rfl, hrests⟩
    have hskip := hrests.skip f
    exact (parallel_rangeFrom? first hskip.shut).after hskip
  · rintro ⟨first, u⟩ hy
    dsimp only
    rw [rangeFrom?_of_overrun hy]
    exact .none

theorem parallel_doubled? (c : Char) (h : Shut s t) :
    Parallel (Tied s t) (fun _ => False) (doubled? c s) (doubled? c t) := by
  unfold doubled?
  cases s with
  | nil =>
    rcases h.refl_or with rfl | rfl
    · dsimp only
      split
      case isTrue hc => rw [← hc]; exact .none
      case isFalse => exact .none
    · exact .none
  | cons d s =>
    obtain ⟨t, rfl, hs⟩ := h.exists_cons
    dsimp only
    split
    · cases setOp? c with
      | none => exact .none
      | some op => exact .some ⟨rfl, .tail hs⟩
    · exact .none

/-- A step after which a class is open that nothing closes. -/
def Unfinished : ClassStep × List Char → Prop
  | (.closed _ _, _) => False
  | (.opened _ _, s) => Unclosed s

theorem parallel_nestedClass? (o : OpenClass) (outer : List OpenClass) (h : Shut s t) :
    Parallel (Tied s t) Unfinished (nestedClass? f o outer s) (nestedClass? f o outer t) := by
  have hname := parallel_asciiClass? h
  unfold nestedClass?
  generalize asciiClass? s = x at hname ⊢
  generalize asciiClass? t = y at hname ⊢
  cases hname with
  | none =>
    exact (parallel_openClass? h).map
      (fun _ _ hxy => ⟨congrArg (ClassStep.opened · (o :: outer)) hxy.1, hxy.2⟩) (fun _ => id)
  | @some x y hxy =>
    obtain ⟨negated, set, r⟩ := x
    obtain ⟨_, _, u⟩ := y
    obtain ⟨rfl, rfl, hrests⟩ := hxy
    dsimp only
    cases foldAndNegate? f negated set with
    | none => exact .none
    | some set => exact .some ⟨rfl, hrests⟩
  | lost hy => exact hy.elim

theorem parallel_classStep? (o : OpenClass) (outer : List OpenClass) (c : Char) (h : Shut s t) :
    Parallel (Tied s t) Unfinished (classStep? f o outer c s) (classStep? f o outer c t) := by
  unfold classStep?
  split
  · exact parallel_nestedClass? o outer h
  · split
    · cases closeClass? f o outer with
      | none => exact .none
      | some step => exact .some ⟨rfl, h.rests⟩
    · have hop := parallel_doubled? c h
      generalize doubled? c s = x at hop ⊢
      generalize doubled? c t = y at hop ⊢
      cases hop with
      | none =>
        exact (parallel_classRange? c h).map
          (fun _ _ hxy => ⟨congrArg (fun set => ClassStep.opened (o.add set 0) outer) hxy.1, hxy.2⟩)
          (fun _ => id)
      | some hxy =>
        exact .some ⟨congrArg (fun op => ClassStep.opened (o.operate f op) outer) hxy.1, hxy.2⟩
      | lost hy => exact hy.elim

/-- A parenthesis would be an item, but nothing closes the class after it. -/
theorem classStep?_parenthesis (o : OpenClass) (outer : List OpenClass) :
    classStep? f o outer ')' [] = none := by
  have hrange : classRange? f [')'] = none := by
    change rangeFrom? f (.literal ')' none) (skip f []) = none
    rw [skip_nil]
    rfl
  simp [classStep?, doubled?, hrange]

theorem class?_of_unclosed {fuel : Nat} (o : OpenClass) (outer : List OpenClass)
    (h : Unclosed s) : class? f fuel o outer s = none := by
  cases fuel with
  | zero => rfl
  | succ fuel =>
    unfold class?
    rcases h with rfl | rfl
    · rw [skip_nil]
    · rw [skip_parenthesis]
      dsimp only
      rw [classStep?_parenthesis]
      rfl

theorem parallel_class? {fuel fuel' : Nat} (o : OpenClass) (outer : List OpenClass)
    (h : Shut s t) (hfuel : s.length < fuel) (hfuel' : t.length < fuel') :
    Parallel (TiedPair s t) (fun _ => False) (class? f fuel o outer s)
      (class? f fuel' o outer t) := by
  induction fuel generalizing fuel' o outer s t with
  | zero => omega
  | succ fuel ih =>
    obtain ⟨fuel', rfl⟩ := Nat.exists_eq_add_one_of_ne_zero (Nat.ne_zero_of_lt hfuel')
    have hskip := h.skip f
    unfold class?
    cases hs : skip f s with
    | nil =>
      rcases (hs ▸ hskip.shut).refl_or with ht | ht <;> rw [ht]
      · dsimp only
        rw [classStep?_parenthesis]
        exact .none
      · exact .none
    | cons c r =>
      rw [hs] at hskip
      obtain ⟨u, ht, hu⟩ := hskip.shut.exists_cons
      rw [ht] at hskip ⊢
      have hlen := hskip.le
      have hlen' := hskip.le'
      rw [List.length_cons] at hlen hlen'
      refine (parallel_classStep? o outer c hu).bind ?_ ?_
      · rintro ⟨step, r'⟩ ⟨_, u'⟩ ⟨rfl, hrests⟩
        have hmore := (hskip.trans (.tail hu)).trans hrests
        cases step with
        | closed set depth => exact .some ⟨rfl, rfl, hmore⟩
        | opened o outer =>
          have hle := hrests.le
          have hle' := hrests.le'
          exact (ih o outer hrests.shut (by omega) (by omega)).after_pair hmore
      · rintro ⟨step, u'⟩ hu'
        cases step with
        | closed set depth => exact hu'.elim
        | opened o outer =>
          dsimp only
          rw [class?_of_unclosed o outer hu']
          exact .none

end ImportWeb.Pattern.Reader
