import Mathlib.Data.List.TakeWhile
import ImportWeb.Path

/-!
The extension of a file name: what follows its last dot, where a dot at the very start does not
count. So a name that ends in a dot and a text with dots of its own has a shorter extension than
that text.
-/

namespace ImportWeb

namespace Path

/-- The text after the last dot of a name, if there is something before that dot, and the empty
text for any other name. -/
def HasExtension (name extension : List Char) : Prop :=
  ('.' ∉ extension ∧ ∃ stem, stem ≠ [] ∧ name = stem ++ '.' :: extension) ∨
    (extension = [] ∧ ∀ stem rest, stem ≠ [] → name ≠ stem ++ '.' :: rest)

/-! ### The last dot -/

/-- The text after the last dot, or all of it. -/
def afterLastDot (text : List Char) : List Char := (text.reverse.takeWhile (· != '.')).reverse

theorem bne_dot_of_not_mem {text : List Char} (h : '.' ∉ text) :
    ∀ c ∈ text.reverse, (c != '.') = true := by
  intro c hc
  have hne : c ≠ '.' := fun he => h (he ▸ List.mem_reverse.1 hc)
  simpa using hne

@[simp] theorem afterLastDot_of_not_mem {text : List Char} (h : '.' ∉ text) :
    afterLastDot text = text := by
  rw [afterLastDot, List.takeWhile_eq_self_iff.2 (bne_dot_of_not_mem h), List.reverse_reverse]

theorem exists_last_dot {text : List Char} (h : '.' ∈ text) :
    ∃ before last, text = before ++ '.' :: last ∧ '.' ∉ last := by
  obtain ⟨last, before, heq, hlast⟩ := List.eq_append_cons_of_mem (List.mem_reverse.2 h)
  refine ⟨before.reverse, last.reverse, ?_, by simpa using hlast⟩
  rw [← text.reverse_reverse, heq]
  simp

theorem afterLastDot_last {last : List Char} (h : '.' ∉ last) (before : List Char) :
    afterLastDot (before ++ '.' :: last) = last := by
  rw [afterLastDot, List.reverse_append, List.reverse_cons, List.append_assoc,
    List.takeWhile_append_of_pos (bne_dot_of_not_mem h), List.singleton_append,
    List.takeWhile_cons_of_neg (by simp), List.append_nil, List.reverse_reverse]

theorem not_mem_afterLastDot (text : List Char) : '.' ∉ afterLastDot text := by
  by_cases h : '.' ∈ text
  · obtain ⟨before, last, rfl, hlast⟩ := exists_last_dot h
    rwa [afterLastDot_last hlast]
  · rwa [afterLastDot_of_not_mem h]

/-! ### Cutting a name -/

theorem cutExtension_last {last : List Char} (h : '.' ∉ last) (stem : List Char) :
    cutExtension (stem ++ '.' :: last) =
      if stem.isEmpty then ('.' :: last, none) else (stem, some last) := by
  have hlast := afterLastDot_last h stem
  rw [afterLastDot] at hlast
  have hlength : (stem ++ '.' :: last).length - last.length - 1 = stem.length := by
    simp only [List.length_append, List.length_cons]
    omega
  unfold cutExtension
  simp only [hlast, hlength, List.take_left]
  by_cases hstem : stem = []
  · simp [hstem]
  · simp [hstem]

theorem cutExtension_of_not_mem {name : List Char} (h : '.' ∉ name) :
    cutExtension name = (name, none) := by
  have hall := afterLastDot_of_not_mem h
  rw [afterLastDot] at hall
  unfold cutExtension
  simp [hall]

theorem hasExtension_cutExtension (name : List Char) :
    HasExtension name ((cutExtension name).2.getD []) := by
  by_cases h : '.' ∈ name
  · obtain ⟨stem, last, rfl, hlast⟩ := exists_last_dot h
    rw [cutExtension_last hlast]
    by_cases hstem : stem = []
    · refine .inr ⟨by simp [hstem], fun stem' rest hne heq => ?_⟩
      -- The only dot is the one at the start.
      obtain ⟨c, more, rfl⟩ := List.exists_cons_of_ne_nil hne
      rw [hstem, List.nil_append, List.cons_append] at heq
      exact hlast ((List.cons.inj heq).2 ▸ List.mem_append_right _ List.mem_cons_self)
    · exact .inl ⟨by simpa [hstem] using hlast, stem, hstem, by simp [hstem]⟩
  · refine .inr ⟨by simp [cutExtension_of_not_mem h], fun stem rest _ heq => h ?_⟩
    rw [heq]
    exact List.mem_append_right _ List.mem_cons_self

theorem HasExtension.unique {name e e' : List Char} (h : HasExtension name e)
    (h' : HasExtension name e') : e = e' := by
  rcases h with ⟨he, stem, hstem, rfl⟩ | ⟨rfl, hnone⟩
  · rcases h' with ⟨he', stem', hstem', heq⟩ | ⟨-, hnone⟩
    · rw [← afterLastDot_last he stem, heq, afterLastDot_last he']
    · exact absurd rfl (hnone stem e hstem)
  · rcases h' with ⟨-, stem', hstem', rfl⟩ | ⟨rfl, -⟩
    · exact absurd rfl (hnone stem' e' hstem')
    · rfl

theorem hasExtension_iff {name e : List Char} :
    HasExtension name e ↔ (cutExtension name).2.getD [] = e :=
  ⟨fun h => (hasExtension_cutExtension name).unique h,
    fun h => h ▸ hasExtension_cutExtension name⟩

/-- A name that ends in a dot and a text has the end of that text as its extension. -/
theorem hasExtension_append {stem : List Char} (hstem : stem ≠ []) (e : List Char) :
    HasExtension (stem ++ '.' :: e) (afterLastDot e) := by
  refine .inl ⟨not_mem_afterLastDot e, ?_⟩
  by_cases h : '.' ∈ e
  · obtain ⟨before, last, rfl, hlast⟩ := exists_last_dot h
    exact ⟨stem ++ '.' :: before, by simp, by simp [afterLastDot_last hlast]⟩
  · exact ⟨stem, hstem, by rw [afterLastDot_of_not_mem h]⟩

end Path

end ImportWeb
