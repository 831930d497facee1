import Mathlib.Data.List.Infix
import ImportWeb.Text.Split

/-!
Cutting a text at a separator of several characters. The cuts are made at the occurrences from
left to right, each one behind the one before it, and this determines the pieces.
-/

namespace ImportWeb.Text

variable {sep s : List Char}

/-- The pieces of a text between occurrences of a separator. No occurrence begins within a piece:
such a one would end within the separator after it. -/
inductive Cut (sep : List Char) : List Char → List (List Char) → Prop
  | whole {s : List Char} (h : ¬ sep <:+: s) : Cut sep s [s]
  | first {piece rest : List Char} {pieces : List (List Char)}
      (h : ¬ sep <:+: piece ++ sep.dropLast) (hrest : Cut sep rest pieces) :
      Cut sep (piece ++ sep ++ rest) (piece :: pieces)

/-- The first occurrence of a separator is at one place. -/
theorem length_le_of_first {piece rest before after : List Char} (hsep : sep ≠ [])
    (h : ¬ sep <:+: before ++ sep.dropLast) (heq : piece ++ sep ++ rest = before ++ sep ++ after) :
    before.length ≤ piece.length := by
  by_contra hlt
  -- Both texts begin alike, up to the last character of the second occurrence.
  have hleft : piece ++ sep <+: before ++ sep ++ after := heq ▸ List.prefix_append ..
  have hright : before ++ sep.dropLast <+: before ++ sep ++ after :=
    ((List.prefix_append_right_inj before).2 (List.dropLast_prefix sep)).trans
      (List.prefix_append ..)
  have hlength := List.length_pos_of_ne_nil hsep
  have hle : (piece ++ sep).length ≤ (before ++ sep.dropLast).length := by
    simp only [List.length_append, List.length_dropLast]
    omega
  have hinside := List.prefix_of_prefix_length_le hleft hright hle
  exact h ((List.suffix_append piece sep).isInfix.trans hinside.isInfix)

theorem Cut.unique {pieces pieces' : List (List Char)} (hsep : sep ≠ []) (h : Cut sep s pieces)
    (h' : Cut sep s pieces') : pieces = pieces' := by
  induction h generalizing pieces' with
  | @whole s h =>
    cases h' with
    | whole => rfl
    | first => exact absurd ⟨_, _, rfl⟩ h
  | @first piece rest pieces h hrest ih =>
    generalize heq : piece ++ sep ++ rest = s at h'
    cases h' with
    | whole h' => exact absurd ⟨_, _, heq⟩ h'
    | @first piece' rest' pieces' h₁ hrest' =>
      have hlength : piece.length = piece'.length :=
        Nat.le_antisymm (length_le_of_first hsep h heq.symm) (length_le_of_first hsep h₁ heq)
      rw [List.append_assoc, List.append_assoc] at heq
      obtain ⟨rfl, htail⟩ := List.append_inj heq hlength
      rw [ih (List.append_cancel_left htail ▸ hrest')]

/-- A separator of one character is in none of the pieces. -/
theorem Cut.not_mem {c : Char} {pieces : List (List Char)} (h : Cut [c] s pieces) :
    ∀ piece ∈ pieces, c ∉ piece := by
  induction h with
  | whole h =>
    intro piece hpiece hc
    obtain rfl := List.mem_singleton.1 hpiece
    exact h ((List.singleton_infix_iff c _).2 hc)
  | first h _ ih =>
    intro piece hpiece hc
    rcases List.mem_cons.1 hpiece with rfl | hpiece
    · rw [List.dropLast_singleton, List.append_nil] at h
      exact h ((List.singleton_infix_iff c _).2 hc)
    · exact ih piece hpiece hc

/-! ### The pieces that are read -/

/-- Characters of an occurrence that has been met are passed over. -/
theorem splitOnFrom_skip (sep : List Char) (n : Nat) (piece s : List Char) :
    splitOnFrom sep n piece s = splitOnFrom sep 0 piece (s.drop n) := by
  induction s generalizing n with
  | nil => cases n <;> rfl
  | cons c rest ih =>
    cases n with
    | zero => rfl
    | succ n => exact ih n

theorem splitOnFrom_append (hsep : sep ≠ []) (piece after : List Char) :
    splitOnFrom sep 0 piece (sep ++ after) = piece.reverse :: splitOnFrom sep 0 [] after := by
  obtain ⟨c, more, rfl⟩ := List.exists_cons_of_ne_nil hsep
  have hmet : (c :: more).isPrefixOf (c :: (more ++ after)) = true :=
    List.isPrefixOf_iff_prefix.2 ⟨after, rfl⟩
  rw [List.cons_append, splitOnFrom, if_pos hmet, splitOnFrom_skip, List.length_cons,
    Nat.add_sub_cancel, List.drop_left]

theorem splitOnFrom_cons {c : Char} {rest : List Char} (h : ¬ sep <+: c :: rest)
    (piece : List Char) :
    splitOnFrom sep 0 piece (c :: rest) = splitOnFrom sep 0 (c :: piece) rest := by
  rw [splitOnFrom, if_neg (by rwa [List.isPrefixOf_iff_prefix])]

/-- No occurrence begins in what has been read of a piece, which is written backwards. -/
def Unmet (sep piece s : List Char) : Prop :=
  ∀ before after, piece.reverse ++ s = before ++ sep ++ after → piece.length ≤ before.length

theorem unmet_nil (sep s : List Char) : Unmet sep [] s := fun _ _ _ => Nat.zero_le _

namespace Unmet

variable {piece : List Char}

theorem not_infix (hsep : sep ≠ []) (h : Unmet sep piece []) : ¬ sep <:+: piece.reverse := by
  rintro ⟨before, after, heq⟩
  have hle := h before after (by rw [List.append_nil, heq])
  have hpos := List.length_pos_of_ne_nil hsep
  have hlength := congrArg List.length heq
  simp only [List.length_append, List.length_reverse] at hlength
  omega

theorem first {after : List Char} (hsep : sep ≠ []) (h : Unmet sep piece (sep ++ after)) :
    ¬ sep <:+: piece.reverse ++ sep.dropLast := by
  rintro ⟨before, middle, heq⟩
  have hall : piece.reverse ++ (sep ++ after) =
      before ++ sep ++ (middle ++ sep.getLast hsep :: after) := by
    rw [← List.append_assoc _ middle, heq]
    conv_lhs => rw [← List.dropLast_concat_getLast hsep]
    simp
  have hle := h before _ hall
  have hpos := List.length_pos_of_ne_nil hsep
  have hlength := congrArg List.length heq
  simp only [List.length_append, List.length_reverse, List.length_dropLast] at hlength
  omega

theorem next {c : Char} {rest : List Char} (h : Unmet sep piece (c :: rest))
    (hnot : ¬ sep <+: c :: rest) : Unmet sep (c :: piece) rest := by
  intro before after heq
  have hshift : (c :: piece).reverse ++ rest = piece.reverse ++ c :: rest := by simp
  rw [hshift] at heq
  refine Nat.lt_of_le_of_ne (h before after heq) fun hsame => hnot ?_
  rw [List.append_assoc] at heq
  obtain ⟨-, htail⟩ := List.append_inj heq (by rw [List.length_reverse, hsame])
  exact ⟨after, htail.symm⟩

/-- An occurrence takes several characters at once, so the induction is on the length. -/
theorem cut (hsep : sep ≠ []) (h : Unmet sep piece s) :
    Cut sep (piece.reverse ++ s) (splitOnFrom sep 0 piece s) := by
  induction hn : s.length using Nat.strongRecOn generalizing piece s with
  | ind n ih =>
    cases s with
    | nil =>
      rw [List.append_nil]
      exact .whole (h.not_infix hsep)
    | cons c rest =>
      by_cases hmet : sep <+: c :: rest
      · obtain ⟨after, hafter⟩ := hmet
        have hlt : after.length < n := by
          have hpos := List.length_pos_of_ne_nil hsep
          rw [← hn, ← hafter, List.length_append]
          omega
        rw [← hafter] at h ⊢
        rw [splitOnFrom_append hsep, ← List.append_assoc]
        exact .first (h.first hsep) (ih after.length hlt (unmet_nil sep after) rfl)
      · have hshift : piece.reverse ++ c :: rest = (c :: piece).reverse ++ rest := by simp
        rw [splitOnFrom_cons hmet, hshift]
        exact ih rest.length (by simp [← hn]) (h.next hmet) rfl

end Unmet

theorem exists_cut (hsep : sep ≠ []) (s : List Char) : ∃ pieces, Cut sep s pieces :=
  ⟨_, (unmet_nil sep s).cut hsep⟩

/-- The segments of a text are what is left of its pieces. -/
theorem segments_of_cut {pieces : List (List Char)} (hsep : sep ≠ []) (h : Cut sep s pieces) :
    segments sep s = pieces.filter (! ·.isEmpty) := by
  rw [segments, if_neg (by simpa using hsep), h.unique hsep ((unmet_nil sep s).cut hsep)]

end ImportWeb.Text
