import ImportWeb.Proofs.Path.Climb

/-!
Texts pushed onto a path. A text may have slashes of its own: one that begins with a slash takes the
place of the whole path, and the pieces of any other are walked from where the path leads. Pieces
that do not step up lead down along the names among them.
-/

namespace ImportWeb

open Text ImportWeb.Path

namespace Path

variable {p : Path} {text : List Char}

/-! ### Absolute paths -/

theorem isAbsolute_iff : p.isAbsolute = true ↔ p.chars.head? = some '/' := by
  obtain ⟨chars⟩ := p
  cases chars with
  | nil => decide
  | cons c rest =>
    rw [List.head?_cons, Option.some.injEq]
    by_cases hc : c = '/'
    · subst hc
      obtain ⟨piece, more, hpieces⟩ := List.exists_cons_of_ne_nil (splitAtChar_ne_nil '/' rest)
      simp [isAbsolute, anchor, hpieces, Anchor.ofPieces_root]
    · obtain ⟨piece, more, -, hpieces⟩ := splitAtChar_cons hc rest
      simp only [isAbsolute, anchor, hpieces, hc, iff_false, decide_eq_true_eq]
      exact Anchor.ofPieces_ne_root (List.cons_ne_nil c piece) more

/-- Where the pieces of a path lead from the root. -/
def destination (p : Path) : Location := (splitAtChar '/' p.chars).foldl climb []

theorem clean_eq_destination (h : p.isAbsolute = true) : p.clean = p.destination.toPath := by
  obtain ⟨chars⟩ := p
  obtain ⟨rest, rfl⟩ : ∃ rest, chars = '/' :: rest := by
    rw [isAbsolute_iff] at h
    exact ⟨_, (List.cons_head?_tail h).symm⟩
  have hpieces : (splitAtChar '/' rest).flatMap (splitAtChar '/') = splitAtChar '/' rest := by
    have hself : ∀ piece ∈ splitAtChar '/' rest, splitAtChar '/' piece = [piece] := fun _ hp =>
      splitAtChar_of_not_mem (not_mem_of_mem_splitAtChar hp)
    rw [List.flatMap_congr hself, List.flatMap_singleton']
  have hpath : (⟨'/' :: rest⟩ : Path) = Location.toPath (splitAtChar '/' rest) := by
    rw [Location.toPath, joinWith_splitAtChar]
  rw [destination, splitAtChar_cons_self, hpath, Location.clean_toPath_eq_along, along, hpieces]
  rfl

/-! ### Texts that are pushed -/

/-- A text that is pushed in place of all before it. -/
def IsRooted (text : List Char) : Prop := text.head? = some '/'

theorem push_of_isRooted (h : IsRooted text) (p : Path) : p.push text = ⟨text⟩ := if_pos h

theorem push_of_not_isRooted (h : ¬ IsRooted text) (p : Path) :
    p.push text = if p.chars.getLast?.all (· = '/') then ⟨p.chars ++ text⟩
      else ⟨p.chars ++ '/' :: text⟩ := if_neg h

theorem head?_push (hp : p.chars ≠ []) (h : ¬ IsRooted text) :
    (p.push text).chars.head? = p.chars.head? := by
  obtain ⟨c, rest, hc⟩ := List.exists_cons_of_ne_nil hp
  rw [push_of_not_isRooted h]
  split <;> simp [hc]

theorem isAbsolute_push (hp : p.isAbsolute = true) (text : List Char) :
    (p.push text).isAbsolute = true := by
  rw [isAbsolute_iff] at hp ⊢
  by_cases h : IsRooted text
  · rwa [push_of_isRooted h]
  · rwa [head?_push (by rintro hnil; simp [hnil] at hp) h]

theorem isAbsolute_foldl_push (hp : p.isAbsolute = true) (texts : List (List Char)) :
    (texts.foldl push p).isAbsolute = true := by
  induction texts generalizing p with
  | nil => exact hp
  | cons text rest ih => exact ih (isAbsolute_push hp text)

/-- What is pushed onto a path is walked from where the path leads. -/
theorem destination_push (hp : p.isAbsolute = true) (h : ¬ IsRooted text) :
    (p.push text).destination = (splitAtChar '/' text).foldl climb p.destination := by
  have hstay (here : Location) : climb here [] = here := if_pos (.inl rfl)
  rcases p.chars.eq_nil_or_concat with hnil | ⟨init, c, hconcat⟩
  · rw [isAbsolute_iff, hnil] at hp
    cases hp
  rw [List.concat_eq_append] at hconcat
  have hbefore : p.destination = (splitAtChar '/' (init ++ [c])).foldl climb [] := by
    rw [destination, hconcat]
  rw [push_of_not_isRooted h, hbefore, hconcat, List.getLast?_concat, destination]
  by_cases hc : c = '/'
  · -- the slash at the end of the path separates the text from what is before it
    subst hc
    have hend : splitAtChar '/' (init ++ ['/']) = splitAtChar '/' init ++ [[]] :=
      splitAtChar_append_cons '/' init []
    rw [if_pos (by simp), List.append_assoc, List.singleton_append, splitAtChar_append_cons, hend,
      List.foldl_append, List.foldl_append, List.foldl_cons, hstay, List.foldl_nil]
  · rw [if_neg (by simpa using hc), splitAtChar_append_cons, List.foldl_append]

theorem destination_foldl_push {texts : List (List Char)} (hp : p.isAbsolute = true)
    (h : ∀ text ∈ texts, ¬ IsRooted text) :
    (texts.foldl push p).destination =
      (texts.flatMap (splitAtChar '/')).foldl climb p.destination := by
  induction texts generalizing p with
  | nil => rfl
  | cons text rest ih =>
    obtain ⟨htext, hrest⟩ := List.forall_mem_cons.1 h
    rw [List.foldl_cons, ih (isAbsolute_push hp text) hrest, destination_push hp htext,
      List.flatMap_cons, List.foldl_append]

/-- The texts from the last one on that takes the place of all before it. -/
def Restarts (texts way : List (List Char)) : Prop :=
  ∃ before first rest, texts = before ++ first :: rest ∧ way = first :: rest ∧ IsRooted first ∧
    ∀ text ∈ rest, ¬ IsRooted text

theorem restarts_or (texts : List (List Char)) :
    (∀ text ∈ texts, ¬ IsRooted text) ∨ ∃ way, Restarts texts way := by
  induction texts with
  | nil => exact .inl (by simp)
  | cons text rest ih =>
    rcases ih with hrest | ⟨way, before, first, more, rfl, hway⟩
    · by_cases htext : IsRooted text
      · exact .inr ⟨_, [], text, rest, rfl, rfl, htext, hrest⟩
      · exact .inl (List.forall_mem_cons.2 ⟨htext, hrest⟩)
    · exact .inr ⟨way, text :: before, first, more, rfl, hway⟩

theorem Restarts.not_forall {texts way : List (List Char)} (h : Restarts texts way) :
    ¬ ∀ text ∈ texts, ¬ IsRooted text := by
  obtain ⟨before, first, rest, rfl, -, hfirst, -⟩ := h
  exact fun hall => hall first (by simp) hfirst

/-- Where a text takes the place of all before it, the path before it does not count. -/
theorem clean_foldl_push_of_restarts {texts way : List (List Char)} (h : Restarts texts way) :
    (texts.foldl push p).clean = along way := by
  obtain ⟨before, first, rest, rfl, rfl, hfirst, hrest⟩ := h
  have habsolute : (⟨first⟩ : Path).isAbsolute = true := isAbsolute_iff.2 hfirst
  rw [List.foldl_append, List.foldl_cons, push_of_isRooted hfirst,
    clean_eq_destination (isAbsolute_foldl_push habsolute rest),
    destination_foldl_push habsolute hrest, along, List.flatMap_cons, List.foldl_append]
  rfl

/-! ### Texts that do not step up -/

/-- No piece of a text steps up. -/
def Descends (text : List Char) : Prop := ['.', '.'] ∉ splitAtChar '/' text

instance (text : List Char) : Decidable (IsRooted text) := inferInstanceAs (Decidable (_ = _))

instance (text : List Char) : Decidable (Descends text) := inferInstanceAs (Decidable (¬ _))

theorem isName_iff {piece : List Char} (h : '/' ∉ piece) :
    IsName piece ↔ piece ≠ [] ∧ piece ≠ ['.'] ∧ piece ≠ ['.', '.'] := by
  unfold IsName component?
  by_cases hnil : piece = []
  · simp [hnil]
  by_cases hdot : piece = ['.']
  · simp [hdot]
  by_cases hup : piece = ['.', '.']
  · simp [hup]
  · simp [h, hnil, hdot, hup]

/-- Pieces that do not step up lead down along the names among them. -/
theorem foldl_climb_of_descends {pieces : List (List Char)} (h : ∀ piece ∈ pieces, '/' ∉ piece)
    (hup : ['.', '.'] ∉ pieces) (here : Location) :
    pieces.foldl climb here = here ++ pieces.filter fun piece => IsName piece := by
  induction pieces generalizing here with
  | nil => simp
  | cons piece rest ih =>
    obtain ⟨hpiece, hrest⟩ := List.forall_mem_cons.1 h
    rw [List.mem_cons, not_or] at hup
    rw [List.foldl_cons, ih hrest hup.2]
    by_cases hname : IsName piece
    · have hne := (isName_iff hpiece).1 hname
      rw [List.filter_cons_of_pos (by simpa using hname), climb,
        if_neg (not_or.2 ⟨hne.1, hne.2.1⟩), if_neg hne.2.2, List.append_assoc,
        List.singleton_append]
    · have hstay : piece = [] ∨ piece = ['.'] := by
        by_contra hmoves
        rw [not_or] at hmoves
        exact hname ((isName_iff hpiece).2 ⟨hmoves.1, hmoves.2, Ne.symm hup.1⟩)
      rw [List.filter_cons_of_neg (by simpa using hname), climb, if_pos hstay]

theorem slash_not_mem_of_mem_flatMap {texts : List (List Char)} {piece : List Char}
    (h : piece ∈ texts.flatMap (splitAtChar '/')) : '/' ∉ piece := by
  obtain ⟨text, -, hpiece⟩ := List.mem_flatMap.1 h
  exact not_mem_of_mem_splitAtChar hpiece

end Path

end ImportWeb
