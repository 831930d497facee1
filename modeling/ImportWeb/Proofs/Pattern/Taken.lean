import ImportWeb.Proofs.Pattern.Match

/-!
What an expression takes. An expression without conditions and marks matches texts of one kind,
wherever they stand: a sequence takes a text of each of its parts one after the other, a repeated
set takes its characters, and letters take themselves.
-/

namespace ImportWeb.Pattern

variable {marked : List Char}

namespace CharSet

theorem mem_single {c d : Char} : (single d.toNat).mem c = true ↔ c = d := by
  rw [mem, has_single, decide_eq_true_eq, Char.toNat_inj]

/-- All characters but one. -/
def allBut (c : Char) : CharSet := ⟨[(0, c.toNat - 1), (c.toNat + 1, maxChar)]⟩

theorem mem_allBut {c d : Char} (hd : d.toNat ≠ 0) : (allBut d).mem c = true ↔ c ≠ d := by
  have hmax : c.toNat ≤ 0x10FFFF := by
    rcases c.valid with h | ⟨-, h⟩
    · exact Nat.le_of_lt (Nat.lt_trans h (by decide))
    · exact Nat.le_of_lt_succ h
  rw [ne_eq, ← Char.toNat_inj]
  simp only [mem, has, allBut, maxChar, List.any_cons, List.any_nil, Bool.or_false,
    Bool.or_eq_true, Bool.and_eq_true, decide_eq_true_eq]
  omega

/-- All characters but the line feed. -/
def unbroken : CharSet := ⟨[(0, 9), (0x0B, maxChar)]⟩

theorem mem_unbroken {c : Char} : unbroken.mem c = true ↔ c ≠ '\n' := by
  have hset : unbroken = allBut '\n' := rfl
  rw [hset, mem_allBut (by decide)]

theorem mem_blank {c : Char} : blank.mem c = true ↔ Text.isBlank c = true := by
  simp only [mem, has, blank, Text.isBlank, List.any_cons, List.any_nil, Bool.or_false,
    Bool.or_eq_true, Bool.and_eq_true, decide_eq_true_eq]
  omega

end CharSet

namespace Expr

/-- The matches of an expression are the texts of a kind, and nothing is marked in them. -/
def Takes (marked : List Char) (e : Expr) (kind : List Char → Prop) : Prop :=
  ∀ before rest m q m', e.Matches marked (.between before rest) m q m' ↔
    m' = m ∧ ∃ s after, rest = s ++ after ∧ kind s ∧ q = .between (before ++ s) after

variable {a b : Expr} {kind kind' : List Char → Prop}

theorem Takes.matchesAt_iff (h : a.Takes marked kind) {before rest : List Char} :
    a.MatchesAt marked before rest ↔ ∃ s after, rest = s ++ after ∧ kind s := by
  constructor
  · rintro ⟨q, m, hmatch⟩
    obtain ⟨-, s, after, hrest, hs, -⟩ := (h _ _ _ _ _).1 hmatch
    exact ⟨s, after, hrest, hs⟩
  · rintro ⟨s, after, hrest, hs⟩
    exact ⟨_, _, (h _ _ _ _ _).2 ⟨rfl, s, after, hrest, hs, rfl⟩⟩

theorem Takes.cat (ha : a.Takes marked kind) (hb : b.Takes marked kind') :
    (Expr.cat a b).Takes marked fun s => ∃ u v, s = u ++ v ∧ kind u ∧ kind' v := by
  intro before rest m q m'
  constructor
  · intro h
    cases h with
    | cat hfirst hsecond =>
      obtain ⟨rfl, u, after, rfl, hu, rfl⟩ := (ha _ _ _ _ _).1 hfirst
      obtain ⟨rfl, v, after, rfl, hv, rfl⟩ := (hb _ _ _ _ _).1 hsecond
      exact ⟨rfl, u ++ v, after, by rw [List.append_assoc], ⟨u, v, rfl, hu, hv⟩,
        by rw [List.append_assoc]⟩
  · rintro ⟨rfl, _, after, rfl, ⟨u, v, rfl, hu, hv⟩, rfl⟩
    exact .cat ((ha _ _ _ _ _).2 ⟨rfl, u, v ++ after, by rw [List.append_assoc], hu, rfl⟩)
      ((hb _ _ _ _ _).2 ⟨rfl, v, after, rfl, hv, by rw [List.append_assoc]⟩)

/-- A character of a set, and the place behind it. -/
theorem matches_chars {set : CharSet} {c : Char} (hc : set.mem c = true) {before rest : List Char}
    {m : Marks} : (chars set).Matches marked (.between before (c :: rest)) m
      (.between (before ++ [c]) rest) m := by
  rw [Place.between_concat]
  exact .chars hc

theorem takes_chars (set : CharSet) :
    (chars set).Takes marked fun s => ∃ c, s = [c] ∧ set.mem c = true := by
  intro before rest m q m'
  constructor
  · intro h
    generalize hp : Place.between before rest = p at h
    cases h with
    | @chars set i previous c after m hc =>
      cases hp
      exact ⟨rfl, [c], after, rfl, ⟨c, rfl, hc⟩, (Place.between_concat before after c).symm⟩
  · rintro ⟨rfl, _, after, rfl, ⟨c, rfl, hc⟩, rfl⟩
    exact matches_chars hc

/-- Characters of a set, at least one. -/
theorem takes_plus_chars (greedy : Bool) (set : CharSet) :
    (plus greedy (chars set)).Takes marked fun s => s ≠ [] ∧ ∀ c ∈ s, set.mem c = true := by
  have hone : (chars set).Takes marked _ := takes_chars set
  intro before rest m q m'
  constructor
  · intro h
    generalize he : plus greedy (chars set) = e at h
    generalize hp : Place.between before rest = p at h
    induction h generalizing before rest with
    | plusLast h =>
      cases he
      obtain ⟨rfl, s, after, rfl, ⟨c, rfl, hc⟩, rfl⟩ := (hone _ _ _ _ _).1 (hp ▸ h)
      exact ⟨rfl, [c], after, rfl, ⟨List.cons_ne_nil _ _, by simpa using hc⟩, rfl⟩
    | plusMore h more _ ih =>
      cases he
      obtain ⟨rfl, s, after, rfl, ⟨c, rfl, hc⟩, rfl⟩ := (hone _ _ _ _ _).1 (hp ▸ h)
      obtain ⟨rfl, s, after, rfl, ⟨-, hs⟩, rfl⟩ := ih _ _ rfl rfl
      exact ⟨rfl, c :: s, after, rfl,
        ⟨List.cons_ne_nil _ _, List.forall_mem_cons.2 ⟨hc, hs⟩⟩, by rw [List.append_assoc]; rfl⟩
    | _ => cases he
  · rintro ⟨rfl, s, after, rfl, ⟨hne, hs⟩, rfl⟩
    induction s generalizing before with
    | nil => exact absurd rfl hne
    | cons c s ih =>
      obtain ⟨hc, hs⟩ := List.forall_mem_cons.1 hs
      by_cases hs' : s = []
      · subst hs'
        exact .plusLast (matches_chars hc)
      · have hmore := ih (before ++ [c]) hs' hs
        rw [List.append_assoc, List.singleton_append] at hmore
        exact .plusMore (matches_chars hc) hmore

/-- Characters of a set, any number of them. -/
theorem takes_star_chars (greedy : Bool) (set : CharSet) :
    (star greedy (chars set)).Takes marked fun s => ∀ c ∈ s, set.mem c = true := by
  have hone : (chars set).Takes marked _ := takes_chars set
  intro before rest m q m'
  constructor
  · intro h
    generalize he : star greedy (chars set) = e at h
    generalize hp : Place.between before rest = p at h
    induction h generalizing before rest with
    | starNone =>
      exact ⟨rfl, [], rest, rfl, List.forall_mem_nil _, by rw [List.append_nil, hp]⟩
    | starMore h more _ ih =>
      cases he
      obtain ⟨rfl, s, after, rfl, ⟨c, rfl, hc⟩, rfl⟩ := (hone _ _ _ _ _).1 (hp ▸ h)
      obtain ⟨rfl, s, after, rfl, hs, rfl⟩ := ih _ _ rfl rfl
      exact ⟨rfl, c :: s, after, rfl, List.forall_mem_cons.2 ⟨hc, hs⟩,
        by rw [List.append_assoc]; rfl⟩
    | _ => cases he
  · rintro ⟨rfl, s, after, rfl, hs, rfl⟩
    induction s generalizing before with
    | nil =>
      rw [List.append_nil]
      exact .starNone
    | cons c s ih =>
      obtain ⟨hc, hs⟩ := List.forall_mem_cons.1 hs
      have hmore := ih (before ++ [c]) hs
      rw [List.append_assoc, List.singleton_append] at hmore
      exact .starMore (matches_chars hc) hmore

/-- Letters in front of an expression. -/
def spelled (word : List Char) (e : Expr) : Expr :=
  word.foldr (fun c e => cat (chars (.single c.toNat)) e) e

/-- A letter in front of a word. -/
theorem exists_letter_iff (kind : List Char → Prop) {c : Char} {word s : List Char} :
    (∃ u v, s = u ++ v ∧ (∃ d, u = [d] ∧ (CharSet.single c.toNat).mem d = true) ∧
      ∃ t, v = word ++ t ∧ kind t) ↔ ∃ t, s = c :: word ++ t ∧ kind t := by
  simp only [CharSet.mem_single]
  constructor
  · rintro ⟨_, _, rfl, ⟨_, rfl, rfl⟩, t, rfl, ht⟩
    exact ⟨t, rfl, ht⟩
  · rintro ⟨t, rfl, ht⟩
    exact ⟨[c], word ++ t, rfl, ⟨c, rfl, rfl⟩, t, rfl, ht⟩

theorem Takes.spelled (h : a.Takes marked kind) (word : List Char) :
    (Expr.spelled word a).Takes marked fun s => ∃ t, s = word ++ t ∧ kind t := by
  induction word with
  | nil => simpa [Expr.spelled] using h
  | cons c word ih =>
    intro before rest m q m'
    refine ((takes_chars (.single c.toNat)).cat ih before rest m q m').trans ?_
    simp only [exists_letter_iff]

end Expr

end ImportWeb.Pattern
