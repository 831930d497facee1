import Mathlib.Data.List.Flatten
import Mathlib.Data.List.Nodup
import Mathlib.Data.List.Perm.Subperm
import ImportWeb.Style.Registry

/-!
A selection of languages. It has some of the languages that are registered, each of them once, so
the styles for an extension are some of those that were for it before, none of them more often,
and no extension is new.
-/

namespace ImportWeb

theorem mem_insertSorted {s t : String} {strings : List String} :
    s ∈ insertSorted t strings ↔ s = t ∨ s ∈ strings := by
  induction strings with
  | nil => simp [insertSorted]
  | cons u rest ih =>
    rw [insertSorted]
    split
    case isTrue heq => simp [heq]
    case isFalse =>
      split
      case isTrue => exact List.mem_cons
      case isFalse => rw [List.mem_cons, ih, List.mem_cons, or_left_comm]

theorem mem_sortedSet {s : String} {strings : List String} :
    s ∈ sortedSet strings ↔ s ∈ strings := by
  induction strings with
  | nil => rfl
  | cons t rest ih =>
    rw [sortedSet, List.foldr_cons, mem_insertSorted, ← sortedSet, ih, List.mem_cons]

namespace Registry

variable {registry narrow : Registry}

/-- Every language chosen is registered, and no other one of its name is chosen. -/
structure Chosen (registry : Registry) (languages : List Language) : Prop where
  registered : languages ⊆ registry.languages
  distinct : (languages.map Language.name).Nodup

theorem Chosen.concat {languages : List Language} (h : registry.Chosen languages) {l : Language}
    (hl : l ∈ registry.languages) (hnew : ¬ languages.any (·.name = l.name) = true) :
    registry.Chosen (languages ++ [l]) := by
  constructor
  case registered => exact List.append_subset.2 ⟨h.registered, by simpa using hl⟩
  case distinct =>
    rw [List.map_append, List.map_singleton]
    refine h.distinct.append (List.nodup_singleton _) ?_
    simpa using hnew

theorem chosen_selectFrom {names : List String} {chosen : List Language}
    (h : registry.Chosen chosen) (hnarrow : registry.selectFrom chosen names = .ok narrow) :
    registry.Chosen narrow.languages := by
  induction names generalizing chosen with
  | nil =>
    cases hnarrow
    exact h
  | cons name rest ih =>
    rw [selectFrom] at hnarrow
    split at hnarrow
    case h_1 => cases hnarrow
    case h_2 l hfind =>
      split at hnarrow
      case isTrue => exact ih h hnarrow
      case isFalse hnew => exact ih (h.concat (List.mem_of_find?_eq_some hfind) hnew) hnarrow

theorem subperm_languages_select {names : List String} (h : registry.select names = .ok narrow) :
    narrow.languages.Subperm registry.languages := by
  have hempty : registry.Chosen [] := ⟨List.nil_subset _, List.nodup_nil⟩
  have hchosen := chosen_selectFrom hempty h
  exact List.subperm_of_subset (List.Nodup.of_map _ hchosen.distinct) hchosen.registered

theorem subperm_styles (h : narrow.languages.Subperm registry.languages) :
    narrow.styles.Subperm registry.styles := by
  obtain ⟨languages, hperm, hsub⟩ := h
  exact ⟨_, hperm.flatMap_right _, hsub.flatMap _⟩

theorem subperm_applicable (h : narrow.styles.Subperm registry.styles) (extension : String) :
    (narrow.applicable extension).Subperm (registry.applicable extension) := h.filter _

theorem extensions_subset (h : narrow.styles.Subperm registry.styles) :
    narrow.extensions ⊆ registry.extensions := by
  intro e he
  rw [extensions, mem_sortedSet, List.mem_flatMap] at he ⊢
  obtain ⟨style, hstyle, he⟩ := he
  exact ⟨style, h.subset hstyle, he⟩

end Registry

end ImportWeb
