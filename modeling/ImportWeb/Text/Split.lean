/-!
Cutting a text at a character or at a separator text, and joining the pieces again. What is cut at
one character may as well be a list of bytes, cut at one of them.
-/

namespace ImportWeb.Text

variable {α : Type}

/-- The pieces of a text at each `sep`, where `piece` holds the first piece so far in reverse. -/
def splitAtFrom [DecidableEq α] (sep : α) (piece : List α) : List α → List (List α)
  | [] => [piece.reverse]
  | c :: rest =>
    if c = sep then piece.reverse :: splitAtFrom sep [] rest
    else splitAtFrom sep (c :: piece) rest

/-- The pieces between the occurrences of `sep`; there is one more piece than occurrences. -/
def splitAtChar [DecidableEq α] (sep : α) (s : List α) : List (List α) := splitAtFrom sep [] s

/-- The inverse of `splitAtChar` on pieces without the separator. -/
def joinWith (sep : List α) : List (List α) → List α
  | [] => []
  | [piece] => piece
  | piece :: rest => piece ++ sep ++ joinWith sep rest

/-- The pieces at each occurrence of `sep`, from left to right and without overlap: `skip`
characters still belong to the occurrence that has just been met. -/
def splitOnFrom (sep : List Char) (skip : Nat) (piece : List Char) : List Char → List (List Char)
  | [] => [piece.reverse]
  | c :: rest =>
    match skip with
    | skip + 1 => splitOnFrom sep skip piece rest
    | 0 =>
      if sep.isPrefixOf (c :: rest) then
        piece.reverse :: splitOnFrom sep (sep.length - 1) [] rest
      else splitOnFrom sep 0 (c :: piece) rest

/-- The non-empty pieces between the occurrences of `sep`. An empty separator stands between
any two characters. -/
def segments (sep s : List Char) : List (List Char) :=
  if sep.isEmpty then s.map ([·])
  else (splitOnFrom sep 0 [] s).filter (! ·.isEmpty)

/-- What follows `word` at the front of a text, if it is there. -/
def dropPrefix? (word s : List Char) : Option (List Char) :=
  if word.isPrefixOf s then some (s.drop word.length) else none

/-- The text before the first `stop`, or all of it. -/
def before (stop : Char) (s : List Char) : List Char := s.takeWhile (· != stop)

theorem joinWith_append (sep : List α) {left right : List (List α)} (hl : left ≠ [])
    (hr : right ≠ []) :
    joinWith sep (left ++ right) = joinWith sep left ++ sep ++ joinWith sep right := by
  induction left with
  | nil => exact absurd rfl hl
  | cons piece rest ih =>
    cases rest with
    | nil =>
      obtain ⟨next, more, rfl⟩ := List.exists_cons_of_ne_nil hr
      simp [joinWith]
    | cons next rest =>
      have ih := ih (by simp)
      simp only [List.cons_append] at ih
      simp only [List.cons_append, joinWith, ih, List.append_assoc]

variable [DecidableEq α]

theorem splitAtFrom_eq (sep : α) (piece s : List α) :
    ∃ head tail, splitAtChar sep s = head :: tail ∧
      splitAtFrom sep piece s = (piece.reverse ++ head) :: tail := by
  induction s generalizing piece with
  | nil => exact ⟨[], [], rfl, by simp [splitAtFrom]⟩
  | cons c rest ih =>
    by_cases h : c = sep
    · exact ⟨[], splitAtFrom sep [] rest, by simp [splitAtChar, splitAtFrom, h],
        by simp [splitAtFrom, h]⟩
    · obtain ⟨head, tail, -, h₁⟩ := ih [c]
      obtain ⟨head', tail', h₂, h₃⟩ := ih (c :: piece)
      obtain ⟨head'', tail'', h₄, h₅⟩ := ih [c]
      rw [h₂] at h₄
      cases h₄
      exact ⟨c :: head', tail', by simp [splitAtChar, splitAtFrom, h, h₅],
        by simp [splitAtFrom, h, h₃]⟩

theorem splitAtChar_ne_nil (sep : α) (s : List α) : splitAtChar sep s ≠ [] := by
  obtain ⟨head, tail, h, -⟩ := splitAtFrom_eq sep [] s
  simp [h]

@[simp] theorem splitAtChar_nil (sep : α) : splitAtChar sep [] = [[]] := rfl

@[simp] theorem splitAtChar_cons_self (sep : α) (s : List α) :
    splitAtChar sep (sep :: s) = [] :: splitAtChar sep s := by
  simp [splitAtChar, splitAtFrom]

theorem splitAtChar_cons {sep c : α} (h : c ≠ sep) (s : List α) :
    ∃ head tail, splitAtChar sep s = head :: tail ∧
      splitAtChar sep (c :: s) = (c :: head) :: tail := by
  obtain ⟨head, tail, h₁, h₂⟩ := splitAtFrom_eq sep [c] s
  exact ⟨head, tail, h₁, by simpa [splitAtChar, splitAtFrom, h] using h₂⟩

/-- What stands in front without a separator belongs to the first piece. -/
theorem splitAtChar_append_left {sep : α} {front : List α} (h : sep ∉ front) (s : List α) :
    ∃ head tail, splitAtChar sep s = head :: tail ∧
      splitAtChar sep (front ++ s) = (front ++ head) :: tail := by
  induction front with
  | nil =>
    obtain ⟨head, tail, hs, -⟩ := splitAtFrom_eq sep [] s
    exact ⟨head, tail, hs, hs⟩
  | cons c rest ih =>
    rw [List.mem_cons, not_or] at h
    obtain ⟨head, tail, hs, hrest⟩ := ih h.2
    obtain ⟨head', tail', h₁, h₂⟩ := splitAtChar_cons (Ne.symm h.1) (rest ++ s)
    rw [hrest, List.cons.injEq] at h₁
    exact ⟨head, tail, hs, by rw [List.cons_append, h₂, ← h₁.1, ← h₁.2, List.cons_append]⟩

theorem joinWith_splitAtChar (sep : α) (s : List α) :
    joinWith [sep] (splitAtChar sep s) = s := by
  induction s with
  | nil => rfl
  | cons c rest ih =>
    by_cases h : c = sep
    · subst h
      rw [splitAtChar_cons_self]
      obtain ⟨head, tail, h₁, -⟩ := splitAtFrom_eq c [] rest
      rw [h₁] at ih ⊢
      simp [joinWith, ih]
    · obtain ⟨head, tail, h₁, h₂⟩ := splitAtChar_cons h rest
      rw [h₁] at ih
      rw [h₂, ← ih]
      cases tail <;> simp [joinWith]

theorem not_mem_of_mem_splitAtChar {sep : α} {s piece : List α}
    (h : piece ∈ splitAtChar sep s) : sep ∉ piece := by
  induction s generalizing piece with
  | nil =>
    rw [splitAtChar_nil, List.mem_singleton] at h
    simp [h]
  | cons c rest ih =>
    by_cases hc : c = sep
    · subst hc
      rw [splitAtChar_cons_self, List.mem_cons] at h
      rcases h with rfl | h
      · simp
      · exact ih h
    · obtain ⟨head, tail, h₁, h₂⟩ := splitAtChar_cons hc rest
      rw [h₂, List.mem_cons] at h
      rcases h with rfl | h
      · have hhead : sep ∉ head := ih (by simp [h₁])
        simp [hhead, Ne.symm hc]
      · exact ih (by simp [h₁, h])

theorem splitAtChar_of_not_mem {sep : α} {s : List α} (h : sep ∉ s) :
    splitAtChar sep s = [s] := by
  induction s with
  | nil => rfl
  | cons c rest ih =>
    rw [List.mem_cons, not_or] at h
    obtain ⟨head, tail, h₁, h₂⟩ := splitAtChar_cons (Ne.symm h.1) rest
    rw [ih h.2, List.cons.injEq] at h₁
    rw [h₂, ← h₁.1, ← h₁.2]

theorem splitAtChar_append {sep : α} {piece : List α} (h : sep ∉ piece) (s : List α) :
    splitAtChar sep (piece ++ sep :: s) = piece :: splitAtChar sep s := by
  induction piece with
  | nil => exact splitAtChar_cons_self sep s
  | cons c rest ih =>
    rw [List.mem_cons, not_or] at h
    obtain ⟨head, tail, h₁, h₂⟩ := splitAtChar_cons (Ne.symm h.1) (rest ++ sep :: s)
    rw [ih h.2, List.cons.injEq] at h₁
    rw [List.cons_append, h₂, ← h₁.1, ← h₁.2]

theorem splitAtChar_append_cons (sep : α) (s t : List α) :
    splitAtChar sep (s ++ sep :: t) = splitAtChar sep s ++ splitAtChar sep t := by
  induction s with
  | nil => simp
  | cons c rest ih =>
    by_cases h : c = sep
    · subst h
      rw [List.cons_append, splitAtChar_cons_self, splitAtChar_cons_self, ih, List.cons_append]
    · obtain ⟨head, tail, h₁, h₂⟩ := splitAtChar_cons h rest
      obtain ⟨head', tail', h₃, h₄⟩ := splitAtChar_cons h (rest ++ sep :: t)
      rw [ih, h₁, List.cons_append, List.cons.injEq] at h₃
      rw [List.cons_append, h₄, h₂, ← h₃.1, ← h₃.2, List.cons_append]

theorem splitAtChar_flatMap {β : Type} (sep : α) (text : β → List α) (as : List β)
    (s : List α) :
    splitAtChar sep (as.flatMap (fun a => text a ++ [sep]) ++ s) =
      as.flatMap (fun a => splitAtChar sep (text a)) ++ splitAtChar sep s := by
  induction as with
  | nil => rfl
  | cons a as ih =>
    rw [List.flatMap_cons, List.append_assoc, List.append_assoc, List.singleton_append,
      splitAtChar_append_cons, ih, List.flatMap_cons, List.append_assoc]

/-- Splitting undoes joining. -/
theorem splitAtChar_joinWith {sep : α} {pieces : List (List α)} (hne : pieces ≠ [])
    (h : ∀ piece ∈ pieces, sep ∉ piece) : splitAtChar sep (joinWith [sep] pieces) = pieces := by
  induction pieces with
  | nil => exact absurd rfl hne
  | cons piece rest ih =>
    obtain ⟨hpiece, hrest⟩ := List.forall_mem_cons.1 h
    cases rest with
    | nil => exact splitAtChar_of_not_mem hpiece
    | cons next rest =>
      rw [joinWith, List.append_assoc, List.singleton_append, splitAtChar_append hpiece,
        ih (by simp) hrest]
      simp

/-- Splitting joined texts splits each of them. -/
theorem splitAtChar_joinWith_texts (sep : α) {texts : List (List α)} (hne : texts ≠ []) :
    splitAtChar sep (joinWith [sep] texts) = texts.flatMap (splitAtChar sep) := by
  induction texts with
  | nil => exact absurd rfl hne
  | cons text rest ih =>
    cases rest with
    | nil => simp [joinWith]
    | cons next rest =>
      have hjoin : joinWith [sep] (text :: next :: rest) =
          text ++ sep :: joinWith [sep] (next :: rest) := by simp [joinWith]
      rw [hjoin, splitAtChar_append_cons, ih (List.cons_ne_nil _ _), List.flatMap_cons (x := text)]

end ImportWeb.Text
