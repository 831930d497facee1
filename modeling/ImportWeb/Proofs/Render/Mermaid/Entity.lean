import Mathlib.Data.List.Infix
import ImportWeb.Render.Mermaid

/-!
The entities in which labels of flowcharts are written. The escaper leaves an ampersand as it is, so
a label that already has an entity is written as the label that the entity stands for. Two labels
are written alike exactly when they agree after their entities are undone.
-/

namespace ImportWeb.Render.Mermaid

/-- What is written for the characters that would end a label. -/
def entities : List (List Char × Char) :=
  [("&quot;".toList, '"'), ("&lt;".toList, '<'), ("&gt;".toList, '>'), ("&#123;".toList, '{'),
    ("&#125;".toList, '}')]

/-- The entity at the front of a text. -/
def entity? (s : List Char) : Option (List Char × Char) := entities.find? (·.1.isPrefixOf s)

/-- Undoes the entities of a text from left to right, where the given number of characters belongs
to an entity that is already undone. -/
def undoFrom : Nat → List Char → List Char
  | _, [] => []
  | skip + 1, _ :: rest => undoFrom skip rest
  | 0, c :: rest =>
    match entity? (c :: rest) with
    | some (name, d) => d :: undoFrom (name.length - 1) rest
    | none => c :: undoFrom 0 rest

def undo (s : List Char) : List Char := undoFrom 0 s

/-- No entity of its own stands in a text. -/
def Plain (s : List Char) : Prop := ∀ e ∈ entities, ¬ e.1 <:+: s

instance (s : List Char) : Decidable (Plain s) := inferInstanceAs (Decidable (∀ e ∈ _, _))

variable {c : Char} {s t w : List Char} {e : List Char × Char}

/-! ### Entities at the front -/

theorem undoFrom_append (w s : List Char) : undoFrom w.length (w ++ s) = undo s := by
  induction w with
  | nil => rfl
  | cons c w ih => exact ih

/-- An entity has one ampersand, at its front. -/
theorem exists_eq_ampersand_cons (he : e ∈ entities) : ∃ name, e.1 = '&' :: name ∧ '&' ∉ name := by
  have hshape : ∀ e ∈ entities, e.1 = '&' :: e.1.tail ∧ '&' ∉ e.1.tail := by decide
  exact ⟨e.1.tail, hshape e he⟩

/-- No entity is the front of another one. -/
theorem entity_unique {e' : List Char × Char} (he : e ∈ entities) (he' : e' ∈ entities)
    (h : e'.1 <+: e.1 ++ s) : e' = e := by
  have hapart : ∀ e ∈ entities, ∀ e' ∈ entities, e'.1 <+: e.1 ∨ e.1 <+: e'.1 → e' = e := by decide
  exact hapart e he e' he' (List.prefix_or_prefix_of_prefix h (List.prefix_append e.1 s))

theorem entity?_append (he : e ∈ entities) (s : List Char) : entity? (e.1 ++ s) = some e := by
  have hsome : (entity? (e.1 ++ s)).isSome := by
    refine List.find?_isSome.2 ⟨e, he, ?_⟩
    exact List.isPrefixOf_iff_prefix.2 (List.prefix_append e.1 s)
  obtain ⟨e', he'⟩ := Option.isSome_iff_exists.1 hsome
  have hfront : e'.1.isPrefixOf (e.1 ++ s) = true :=
    List.find?_some (p := fun e' : List Char × Char => e'.1.isPrefixOf (e.1 ++ s)) he'
  rw [he', entity_unique he (List.mem_of_find?_eq_some he') (List.isPrefixOf_iff_prefix.1 hfront)]

theorem entity?_eq_none (h : ∀ e ∈ entities, ¬ e.1 <+: s) : entity? s = none := by
  refine List.find?_eq_none.2 fun e he hstart => ?_
  exact h e he (List.isPrefixOf_iff_prefix.1 hstart)

theorem undo_entity (he : e ∈ entities) (s : List Char) : undo (e.1 ++ s) = e.2 :: undo s := by
  obtain ⟨name, hname, -⟩ := exists_eq_ampersand_cons he
  have hentity := entity?_append he s
  rw [hname, List.cons_append] at hentity ⊢
  simp [undo, undoFrom, hentity, hname, undoFrom_append]

theorem undo_cons (h : ∀ e ∈ entities, ¬ e.1 <+: c :: s) : undo (c :: s) = c :: undo s := by
  simp [undo, undoFrom, entity?_eq_none h]

/-- A text is empty, starts with an entity, or starts with a character that starts none. -/
theorem undo_induction {motive : List Char → Prop} (nil : motive [])
    (entity : ∀ e ∈ entities, ∀ s, motive s → motive (e.1 ++ s))
    (cons : ∀ c s, (∀ e ∈ entities, ¬ e.1 <+: c :: s) → motive s → motive (c :: s))
    (s : List Char) : motive s := by
  have hlength : ∀ e ∈ entities, 0 < e.1.length := by decide
  induction hn : s.length using Nat.strongRecOn generalizing s with
  | _ n ih =>
    cases s with
    | nil => exact nil
    | cons c s =>
      by_cases h : ∃ e ∈ entities, e.1 <+: c :: s
      · obtain ⟨e, he, t, ht⟩ := h
        have := hlength e he
        have hsum := congrArg List.length ht
        rw [List.length_append] at hsum
        rw [← ht]
        exact entity e he t (ih t.length (by omega) t rfl)
      · have hno : ∀ e ∈ entities, ¬ e.1 <+: c :: s := fun e he hstart => h ⟨e, he, hstart⟩
        rw [List.length_cons] at hn
        exact cons c s hno (ih s.length (by omega) s rfl)

/-! ### Escaped texts -/

theorem escapeChar_cases (c : Char) :
    (∃ e ∈ entities, e.2 = c ∧ escapeChar c = e.1) ∨
      (∀ e ∈ entities, e.2 ≠ c) ∧ escapeChar c = [c] := by
  by_cases h : ∃ e ∈ entities, e.2 = c
  · have hwritten : ∀ e ∈ entities, escapeChar e.2 = e.1 := by decide
    obtain ⟨e, he, rfl⟩ := h
    exact .inl ⟨e, he, rfl, hwritten e he⟩
  · refine .inr ⟨fun e he hc => h ⟨e, he, hc⟩, ?_⟩
    simp only [entities, List.mem_cons, List.not_mem_nil, or_false, exists_eq_or_imp,
      exists_eq_left, not_or] at h
    simp [escapeChar, Ne.symm h.1, Ne.symm h.2.1, Ne.symm h.2.2.1, Ne.symm h.2.2.2.1,
      Ne.symm h.2.2.2.2]

theorem escape_cons (c : Char) (s : List Char) :
    escape (c :: s) = escapeChar c ++ escape s := rfl

theorem escape_append (s t : List Char) : escape (s ++ t) = escape s ++ escape t :=
  List.flatMap_append

theorem escape_entity (he : e ∈ entities) (s : List Char) :
    escape (e.1 ++ s) = e.1 ++ escape s := by
  have hkept : ∀ e ∈ entities, escape e.1 = e.1 := by decide
  rw [escape_append, hkept e he]

/-- The escaper makes no new front that has no ampersand. -/
theorem prefix_of_prefix_escape (hw : '&' ∉ w) (h : w <+: escape s) : w <+: s := by
  induction w generalizing s with
  | nil => exact List.nil_prefix
  | cons d w ih =>
    rw [List.mem_cons, not_or] at hw
    cases s with
    | nil => exact h
    | cons c s =>
      rcases escapeChar_cases c with ⟨e, he, -, hc⟩ | ⟨-, hc⟩
      · obtain ⟨name, hname, -⟩ := exists_eq_ampersand_cons he
        rw [escape_cons, hc, hname, List.cons_append, List.cons_prefix_cons] at h
        exact absurd h.1.symm hw.1
      · rw [escape_cons, hc, List.singleton_append, List.cons_prefix_cons] at h
        exact List.cons_prefix_cons.2 ⟨h.1, ih hw.2 h.2⟩

/-- Undoing an escaped text undoes the entities that it had before as well. -/
theorem undo_escape (s : List Char) : undo (escape s) = undo s := by
  induction s using undo_induction with
  | nil => rfl
  | entity e he s ih => rw [escape_entity he, undo_entity he, undo_entity he, ih]
  | cons c s hno ih =>
    rw [escape_cons, undo_cons hno]
    rcases escapeChar_cases c with ⟨e, he, rfl, hc⟩ | ⟨-, hc⟩
    · rw [hc, undo_entity he, ih]
    · rw [hc, List.singleton_append, undo_cons, ih]
      -- an entity at the front of the escaped text would already be at the front before
      intro e he hstart
      obtain ⟨name, hname, hamp⟩ := exists_eq_ampersand_cons he
      rw [hname, List.cons_prefix_cons] at hstart
      refine hno e he ?_
      rw [hname, List.cons_prefix_cons]
      exact ⟨hstart.1, prefix_of_prefix_escape hamp hstart.2⟩

theorem escape_undo (s : List Char) : escape (undo s) = escape s := by
  have hwritten : ∀ e ∈ entities, escapeChar e.2 = e.1 := by decide
  induction s using undo_induction with
  | nil => rfl
  | entity e he s ih => rw [undo_entity he, escape_cons, hwritten e he, ih, escape_entity he]
  | cons c s hno ih => rw [undo_cons hno, escape_cons, escape_cons, ih]

/-- Two labels are written alike exactly when their entities stand for the same text. -/
theorem escape_eq_iff : escape s = escape t ↔ undo s = undo t := by
  constructor
  · intro h
    rw [← undo_escape s, h, undo_escape]
  · intro h
    rw [← escape_undo s, h, escape_undo]

theorem length_undo_le (s : List Char) : (undo s).length ≤ s.length := by
  have hlength : ∀ e ∈ entities, 1 ≤ e.1.length := by decide
  induction s using undo_induction with
  | nil => exact Nat.le_refl 0
  | entity e he s ih =>
    have := hlength e he
    rw [undo_entity he, List.length_cons, List.length_append]
    omega
  | cons c s hno ih =>
    rw [undo_cons hno, List.length_cons, List.length_cons]
    omega

/-- Undoing leaves exactly those texts as they are that have no entity. -/
theorem undo_eq_self_iff : undo s = s ↔ Plain s := by
  induction s using undo_induction with
  | nil => decide
  | entity e he s ih =>
    have hlength : ∀ e ∈ entities, 1 < e.1.length := by decide
    constructor
    · intro h
      have hsame := congrArg List.length h
      have hshort := length_undo_le s
      have := hlength e he
      rw [undo_entity he, List.length_cons, List.length_append] at hsame
      omega
    · intro h
      exact absurd (List.prefix_append e.1 s).isInfix (h e he)
  | cons c s hno ih =>
    rw [undo_cons hno, List.cons.injEq, ih]
    constructor
    · rintro ⟨-, hs⟩ e he hwithin
      rcases List.infix_cons_iff.1 hwithin with h | h
      · exact hno e he h
      · exact hs e he h
    · intro h
      exact ⟨rfl, fun e he hwithin => h e he (List.infix_cons hwithin)⟩

end ImportWeb.Render.Mermaid
