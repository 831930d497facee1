import Mathlib.Data.List.TakeWhile
import ImportWeb.Text.Blank
import ImportWeb.Text.Split

/-!
The words of a text. A blank character ends a word wherever it stands, so the words of a text are
those before the blank and those after it, and blanks alone hold none. Characters of one sort in
front of a text are told apart from the rest by the first character of another sort.
-/

namespace ImportWeb.Text

/-! ### Words -/

theorem wordsFrom_append_cons {c : Char} (hc : isBlank c = true) (word s t : List Char) :
    wordsFrom word (s ++ c :: t) = wordsFrom word s ++ words t := by
  induction s generalizing word with
  | nil =>
    rw [List.nil_append, wordsFrom, wordsFrom, if_pos hc]
    split <;> rfl
  | cons d s ih =>
    rw [List.cons_append, wordsFrom, wordsFrom, ih, ih]
    split
    · split <;> rfl
    · rfl

/-- A blank separates the words before it from those after it. -/
theorem words_append_cons {c : Char} (hc : isBlank c = true) (s t : List Char) :
    words (s ++ c :: t) = words s ++ words t := wordsFrom_append_cons hc [] s t

theorem words_cons_blank {c : Char} (hc : isBlank c = true) (t : List Char) :
    words (c :: t) = words t := words_append_cons hc [] t

/-- Blanks in front of a text do not count. -/
theorem words_blanks_append {gap : List Char} (h : ∀ c ∈ gap, isBlank c = true) (t : List Char) :
    words (gap ++ t) = words t := by
  induction gap with
  | nil => rfl
  | cons c gap ih =>
    obtain ⟨hc, hgap⟩ := List.forall_mem_cons.1 h
    rw [List.cons_append, words_cons_blank hc, ih hgap]

theorem wordsFrom_of_unbroken {s : List Char} (h : ∀ c ∈ s, isBlank c = false) (word : List Char) :
    wordsFrom word s = if word.reverse ++ s = [] then [] else [word.reverse ++ s] := by
  induction s generalizing word with
  | nil => simp [wordsFrom]
  | cons c s ih =>
    obtain ⟨hc, hs⟩ := List.forall_mem_cons.1 h
    rw [wordsFrom, if_neg (by simp [hc]), ih hs]
    simp

/-- A text without blanks is one word. -/
theorem words_of_unbroken {s : List Char} (hne : s ≠ []) (h : ∀ c ∈ s, isBlank c = false) :
    words s = [s] := by
  rw [words, wordsFrom_of_unbroken h, List.reverse_nil, List.nil_append, if_neg hne]

/-- The first word is what stands before the first blank. -/
theorem words_unbroken_append {s t : List Char} (hne : s ≠ []) (h : ∀ c ∈ s, isBlank c = false)
    (ht : ∀ c ∈ t.head?, isBlank c = true) : words (s ++ t) = s :: words t := by
  cases t with
  | nil => rw [List.append_nil, words_of_unbroken hne h, words_nil]
  | cons c t =>
    have hc : isBlank c = true := ht c rfl
    rw [words_append_cons hc, words_of_unbroken hne h, words_cons_blank hc, List.singleton_append]

theorem wordsFrom_eq_nil_iff (word s : List Char) :
    wordsFrom word s = [] ↔ word = [] ∧ ∀ c ∈ s, isBlank c = true := by
  induction s generalizing word with
  | nil => simp [wordsFrom]
  | cons c s ih =>
    rw [wordsFrom, List.forall_mem_cons]
    by_cases hc : isBlank c = true
    · by_cases hword : word = []
      · simp [hc, hword, ih]
      · simp [hc, hword]
    · simp [hc, ih]

/-- Only blanks hold no words. -/
theorem words_eq_nil_iff {s : List Char} : words s = [] ↔ ∀ c ∈ s, isBlank c = true := by
  simp [words, wordsFrom_eq_nil_iff]

/-- Only of blanks trimming leaves nothing. -/
theorem trim_eq_nil_iff {s : List Char} : trim s = [] ↔ ∀ c ∈ s, isBlank c = true := by
  have hend : trimEnd (trimStart s) = [] ↔ ∀ c ∈ trimStart s, isBlank c = true := by
    rw [trimEnd, List.reverse_eq_nil_iff, List.dropWhile_eq_nil_iff]
    simp
  have hstart : trimStart s = [] ↔ ∀ c ∈ s, isBlank c = true := List.dropWhile_eq_nil_iff
  rw [trim, hend, ← hstart]
  constructor
  · intro hall
    by_contra hne
    have hfirst := List.head?_dropWhile_not isBlank s
    rw [← trimStart, List.head?_eq_some_head hne] at hfirst
    simp [hall _ (List.head_mem hne)] at hfirst
  · intro hnil
    simp [hnil]

/-! ### Characters of one sort -/

theorem takeWhile_append_stop {p : Char → Bool} {run s : List Char} (hrun : ∀ c ∈ run, p c = true)
    (hs : ∀ c ∈ s.head?, p c = false) : (run ++ s).takeWhile p = run := by
  rw [List.takeWhile_append_of_pos hrun]
  cases s with
  | nil => simp
  | cons c s => simp [hs c rfl]

/-- A run of characters of one sort ends at one place. -/
theorem run_append_inj {p : Char → Bool} {run run' s s' : List Char}
    (hrun : ∀ c ∈ run, p c = true) (hrun' : ∀ c ∈ run', p c = true)
    (hs : ∀ c ∈ s.head?, p c = false) (hs' : ∀ c ∈ s'.head?, p c = false)
    (h : run ++ s = run' ++ s') : run = run' ∧ s = s' := by
  have hsame : run = run' := by
    rw [← takeWhile_append_stop hrun hs, h, takeWhile_append_stop hrun' hs']
  subst hsame
  exact ⟨rfl, List.append_cancel_left h⟩

/-! ### Pieces -/

/-- What is true of the characters of all pieces is true of all characters but the separators. -/
theorem forall_mem_splitAtChar_iff {sep : Char} {s : List Char} {p : Char → Prop} :
    (∀ piece ∈ splitAtChar sep s, ∀ c ∈ piece, p c) ↔ ∀ c ∈ s, p c ∨ c = sep := by
  induction s with
  | nil => simp
  | cons c s ih =>
    rw [List.forall_mem_cons, ← ih]
    by_cases hc : c = sep
    · simp [hc]
    · obtain ⟨head, tail, hs, hcs⟩ := splitAtChar_cons hc s
      simp only [hs, hcs, List.forall_mem_cons, hc, or_false, and_assoc]

/-! ### The text before a character -/

theorem before_append {stop : Char} {s : List Char} (h : stop ∉ s) (t : List Char) :
    before stop (s ++ t) = s ++ before stop t :=
  List.takeWhile_append_of_pos fun _ hc => bne_iff_ne.2 (ne_of_mem_of_not_mem hc h)

theorem before_of_not_mem {stop : Char} {s : List Char} (h : stop ∉ s) : before stop s = s := by
  simpa [before] using before_append h []

theorem before_cons_self (stop : Char) (t : List Char) : before stop (stop :: t) = [] :=
  List.takeWhile_cons_of_neg (by simp)

theorem stop_not_mem_before (stop : Char) (s : List Char) : stop ∉ before stop s := fun hmem => by
  simpa using List.mem_takeWhile_imp hmem

theorem before_before (stop : Char) (s : List Char) :
    before stop (before stop s) = before stop s := before_of_not_mem (stop_not_mem_before stop s)

theorem not_mem_joinWith {c : Char} {sep : List Char} (hsep : c ∉ sep) {pieces : List (List Char)}
    (h : ∀ piece ∈ pieces, c ∉ piece) : c ∉ joinWith sep pieces := by
  induction pieces with
  | nil => exact List.not_mem_nil
  | cons piece rest ih =>
    obtain ⟨hpiece, hrest⟩ := List.forall_mem_cons.1 h
    cases rest with
    | nil => exact hpiece
    | cons next rest =>
      change c ∉ piece ++ sep ++ joinWith sep (next :: rest)
      rw [List.mem_append, List.mem_append]
      exact not_or.2 ⟨not_or.2 ⟨hpiece, hsep⟩, ih hrest⟩

/-- A text is what stands before a character, and that character with what follows it if there is
one. -/
theorem exists_eq_before_append (stop : Char) (s : List Char) :
    ∃ t, s = before stop s ++ t ∧ ∀ c ∈ t.head?, c = stop := by
  refine ⟨s.dropWhile (· != stop), List.takeWhile_append_dropWhile.symm, fun c hc => ?_⟩
  have hne := List.head?_dropWhile_not (· != stop) s
  rw [Option.mem_def.1 hc] at hne
  simpa using hne

end ImportWeb.Text
