import ImportWeb.Proofs.Pattern.Taken

/-!
What an expression captures. An expression with the marked group in it, but without conditions,
matches texts of three parts, of which the middle one stands between the marks. What is matched
before the group comes to the first part and what is matched behind it to the last.
-/

namespace ImportWeb.Pattern

variable {marked : List Char}

namespace Expr

/-- The matches of an expression are the texts of a kind, and their middle part is marked. -/
def Captures (marked : List Char) (e : Expr)
    (kind : List Char → List Char → List Char → Prop) : Prop :=
  ∀ before rest m q m', e.Matches marked (.between before rest) m q m' ↔
    ∃ u t v after, rest = u ++ (t ++ (v ++ after)) ∧ kind u t v ∧
      q = .between (before ++ (u ++ (t ++ v))) after ∧
      m' = ⟨some (before ++ u).length, some (before ++ (u ++ t)).length⟩

variable {a b : Expr} {kind' : List Char → Prop} {kind : List Char → List Char → List Char → Prop}

/-- The marked group captures all that it takes. -/
theorem Takes.group (h : a.Takes marked kind') :
    (group (some marked) a).Captures marked fun u t v => u = [] ∧ kind' t ∧ v = [] := by
  intro before rest m q m'
  constructor
  · intro hmatch
    cases hmatch with
    | marked hinner =>
      obtain ⟨rfl, t, after, rfl, ht, rfl⟩ := (h _ _ _ _ _).1 hinner
      exact ⟨[], t, [], after, rfl, ⟨rfl, ht, rfl⟩, by simp, by simp [Place.between]⟩
    | unmarked hname => exact absurd rfl hname
  · rintro ⟨_, t, _, after, rfl, ⟨rfl, ht, rfl⟩, rfl, rfl⟩
    have hinner : a.Matches marked (.between before (t ++ after))
        { m with opened := some before.length } (.between (before ++ t) after)
        { m with opened := some before.length } :=
      (h _ _ _ _ _).2 ⟨rfl, t, after, rfl, ht, rfl⟩
    simpa [Place.between] using Matches.marked hinner

/-- What is matched before the group comes to the first part. -/
theorem Takes.cat_captures (ha : a.Takes marked kind') (hb : b.Captures marked kind) :
    (Expr.cat a b).Captures marked
      fun u t v => ∃ u₁ u₂, u = u₁ ++ u₂ ∧ kind' u₁ ∧ kind u₂ t v := by
  intro before rest m q m'
  constructor
  · intro h
    cases h with
    | cat hfirst hsecond =>
      obtain ⟨rfl, u₁, after, rfl, hu₁, rfl⟩ := (ha _ _ _ _ _).1 hfirst
      obtain ⟨u₂, t, v, after, rfl, hkind, rfl, rfl⟩ := (hb _ _ _ _ _).1 hsecond
      exact ⟨u₁ ++ u₂, t, v, after, by simp, ⟨u₁, u₂, rfl, hu₁, hkind⟩, by simp, by simp⟩
  · rintro ⟨_, t, v, after, rfl, ⟨u₁, u₂, rfl, hu₁, hkind⟩, rfl, rfl⟩
    refine .cat ((ha _ _ _ _ _).2 ⟨rfl, u₁, u₂ ++ (t ++ (v ++ after)), by simp, hu₁, rfl⟩) ?_
    exact (hb _ _ _ _ _).2 ⟨u₂, t, v, after, rfl, hkind, by simp, by simp⟩

/-- What is matched behind the group comes to the last part. -/
theorem Captures.cat (ha : a.Captures marked kind) (hb : b.Takes marked kind') :
    (Expr.cat a b).Captures marked
      fun u t v => ∃ v₁ v₂, v = v₁ ++ v₂ ∧ kind u t v₁ ∧ kind' v₂ := by
  intro before rest m q m'
  constructor
  · intro h
    cases h with
    | cat hfirst hsecond =>
      obtain ⟨u, t, v₁, after, rfl, hkind, rfl, rfl⟩ := (ha _ _ _ _ _).1 hfirst
      obtain ⟨rfl, v₂, after, rfl, hv₂, rfl⟩ := (hb _ _ _ _ _).1 hsecond
      exact ⟨u, t, v₁ ++ v₂, after, by simp, ⟨v₁, v₂, rfl, hkind, hv₂⟩, by simp, rfl⟩
  · rintro ⟨u, t, _, after, rfl, ⟨v₁, v₂, rfl, hkind, hv₂⟩, rfl, rfl⟩
    refine .cat ((ha _ _ _ _ _).2 ⟨u, t, v₁, v₂ ++ after, by simp, hkind, rfl, rfl⟩) ?_
    exact (hb _ _ _ _ _).2 ⟨rfl, v₂, after, rfl, hv₂, by simp⟩

theorem Captures.spelled (h : a.Captures marked kind) (word : List Char) :
    (Expr.spelled word a).Captures marked fun u t v => ∃ s, u = word ++ s ∧ kind s t v := by
  induction word with
  | nil => simpa [Expr.spelled] using h
  | cons c word ih =>
    intro before rest m q m'
    refine ((takes_chars (.single c.toNat)).cat_captures ih before rest m q m').trans ?_
    simp only [exists_letter_iff fun s => kind s _ _]

theorem Captures.congr {kind'' : List Char → List Char → List Char → Prop}
    (h : a.Captures marked kind) (hkind : ∀ u t v, kind u t v ↔ kind'' u t v) :
    a.Captures marked kind'' := by
  have heq : kind = kind'' := by
    funext u t v
    exact propext (hkind u t v)
  exact heq ▸ h

theorem Captures.matchesAt_iff (h : a.Captures marked kind) {before rest : List Char} :
    a.MatchesAt marked before rest ↔
      ∃ u t v after, rest = u ++ (t ++ (v ++ after)) ∧ kind u t v := by
  constructor
  · rintro ⟨q, m, hmatch⟩
    obtain ⟨u, t, v, after, hrest, hkind, -⟩ := (h _ _ _ _ _).1 hmatch
    exact ⟨u, t, v, after, hrest, hkind⟩
  · rintro ⟨u, t, v, after, hrest, hkind⟩
    exact ⟨_, _, (h _ _ _ _ _).2 ⟨u, t, v, after, hrest, hkind, rfl, rfl⟩⟩

end Expr

end ImportWeb.Pattern
