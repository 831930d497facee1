import ImportWeb.Proofs.Toml.Value

/-!
Reading documents line by line. What the lines up to a line break come to does not depend on the
lines behind it: reading the whole document is reading the first lines and going on from there.
-/

namespace ImportWeb.Toml

variable {α : Type} {t s u r : List Char} {c : Char}

/-! ### One line -/

/-- Results of the same value with such texts behind them, of which the first may be over. -/
def TiedOrOver (t : List Char) (x y : α × List Char) : Prop := x.1 = y.1 ∧ GoesOnOrEnds t x.2 y.2

theorem rel_lineEnd? (h : GoesOn t s u) :
    Option.Rel (GoesOnOrEnds t) (lineEnd? s) (lineEnd? u) := by
  have hcomment : GoesOn t ((comment? (skipSpace s)).getD (skipSpace s))
      ((comment? (skipSpace u)).getD (skipSpace u)) := by
    obtain ⟨hs, hu⟩ | ⟨r, v, hs, hu, hrest⟩ := rel_cases (rel_comment? h.skipSpace)
    · rw [hs, hu]
      exact h.skipSpace
    · rw [hs, hu]
      exact hrest
  rw [lineEnd?, lineEnd?]
  generalize (comment? (skipSpace s)).getD (skipSpace s) = r at hcomment ⊢
  generalize (comment? (skipSpace u)).getD (skipSpace u) = v at hcomment ⊢
  have hnewline := rel_newline? hcomment
  obtain ⟨c, r, v, rfl, rfl⟩ := hcomment.exists_cons
  exact hnewline

/-- The end of a line is one whatever text follows the line break. -/
theorem lineEnd?_append (h : lineEnd? (s ++ ['\n']) = some []) (t : List Char) :
    lineEnd? (s ++ '\n' :: t) = some t := by
  have hgoes : GoesOn t (s ++ ['\n']) (s ++ '\n' :: t) := ⟨by simp, by simp⟩
  obtain ⟨hnone, -⟩ | ⟨r, v, hr, hv, hrest⟩ := rel_cases (rel_lineEnd? hgoes)
  · rw [h] at hnone
    cases hnone
  · rw [h] at hr
    cases hr
    rw [hv, hrest.1]
    rfl

/-- What ends a line does not begin with a quote. -/
theorem head?_ne_quote (h : lineEnd? s = some r) : s.head? ≠ some '"' := by
  intro hquote
  obtain ⟨rest, rfl⟩ : ∃ rest, s = '"' :: rest := by
    cases s with
    | nil => cases hquote
    | cons c rest => exact ⟨rest, by rw [Option.some.inj hquote]⟩
  cases h

/-- A line that makes a document ends alike in both texts. -/
theorem rel_closed (document : Option Table) (path : List String) (h : GoesOn t s u) :
    Option.Rel (TiedOrOver t) (do return (Reading.mk (← document) path, ← lineEnd? s))
      (do return (Reading.mk (← document) path, ← lineEnd? u)) := by
  cases document with
  | none => exact .none
  | some document =>
    rw [Option.bind_eq_bind, Option.bind_some, Option.bind_eq_bind, Option.bind_some]
    refine rel_bind (rel_lineEnd? h) fun _ _ hrest => ?_
    exact .some ⟨rfl, hrest⟩

theorem follows_header? (reading : Reading) (h : GoesOn t s u) :
    Follows (TiedOrOver t) (header? reading s) (header? reading u) := by
  obtain ⟨c, s, u, rfl, rfl⟩ := h.exists_cons
  by_cases hc : c = '['
  · subst hc
    refine .bind (follows_key? (h.tail (by decide))) ?_
    rintro ⟨path, r⟩ ⟨_, v⟩ ⟨rfl, hrest⟩
    refine .bind (.of_rel (rel_dropPrefix? [']', ']'] (by decide) hrest)) fun r v hrest => ?_
    exact .of_rel (rel_closed _ path hrest)
  · have htable (s : List Char) : header? reading (c :: s) = (do
        let x ← key? (c :: s)
        let rest ← Text.dropPrefix? [']'] x.2
        return (⟨← reading.document.openTable x.1, x.1⟩, ← lineEnd? rest)) := by
      simp [header?, hc]
    rw [htable, htable]
    refine .bind (follows_key? h) ?_
    rintro ⟨path, r⟩ ⟨_, v⟩ ⟨rfl, hrest⟩
    refine .bind (.of_rel (rel_dropPrefix? [']'] (by decide) hrest)) fun r v hrest => ?_
    exact .of_rel (rel_closed _ path hrest)

theorem follows_keyValue? (reading : Reading) (h : GoesOn t s u) :
    Follows (TiedOrOver t) (keyValue? reading s) (keyValue? reading u) := by
  refine .bind (follows_key? h) ?_
  rintro ⟨path, r⟩ ⟨_, v⟩ ⟨rfl, hkey⟩
  refine .bind (.of_rel (rel_dropPrefix? ['='] (by decide) hkey)) fun r v hequals => ?_
  have hfuel : 2 * r.length + 2 ≤ 2 * v.length + 2 := by
    have hle := hequals.length_le
    omega
  refine .bind ((followsOn hfuel).value 0 hequals.skipSpace) ?_
  rintro ⟨value, r⟩ ⟨_, v⟩ ⟨rfl, hrest⟩
  exact .of_rel (rel_closed _ reading.path hrest)

/-- One line: nothing, a comment, a header, or a key and its value. -/
def line? (reading : Reading) (s : List Char) : Option (Reading × List Char) :=
  match skipSpace s with
  | '[' :: rest => header? reading rest
  | s =>
    match newline? s with
    | some rest => some (reading, rest)
    | none =>
      if s.head? = some '#' then (lineEnd? s).map (reading, ·) else keyValue? reading s

theorem line?_of_ne (reading : Reading) (hs : skipSpace s = c :: r) (hc : c ≠ '[') :
    line? reading s = match newline? (c :: r) with
      | some rest => some (reading, rest)
      | none => if c = '#' then (lineEnd? (c :: r)).map (reading, ·)
        else keyValue? reading (c :: r) := by
  rw [line?, hs]
  simp [hc]

/-- A line that begins with none of these characters has a key and its value. -/
theorem line?_of_not (hc : c ∉ [' ', '\t', '\n', '\r', '[', '#']) (reading : Reading)
    (s : List Char) : line? reading (c :: s) = keyValue? reading (c :: s) := by
  simp only [List.mem_cons, not_or] at hc
  obtain ⟨hspace, htab, hline, hreturn, hbracket, hnumber, -⟩ := hc
  have hskip : skipSpace (c :: s) = c :: s :=
    List.dropWhile_cons_of_neg (by simp [isSpace, hspace, htab])
  have hnewline : newline? (c :: s) = none := by simp [newline?, hline, hreturn]
  rw [line?_of_ne reading hskip hbracket, hnewline]
  simp only [hnumber, if_false]

theorem lines?_succ (fuel : Nat) (reading : Reading) (s : List Char) :
    lines? (fuel + 1) reading s = if skipSpace s = [] then some reading.document
      else line? reading s >>= fun x => lines? fuel x.1 x.2 := by
  cases hs : skipSpace s with
  | nil => rw [lines?, hs, if_pos rfl]
  | cons c rest =>
    rw [if_neg (List.cons_ne_nil c rest)]
    by_cases hc : c = '['
    · subst hc
      rw [lines?, line?, hs]
      rfl
    · rw [line?_of_ne reading hs hc, lines?, hs]
      cases hnewline : newline? (c :: rest) with
      | some rest => simp [hc, hnewline]
      | none =>
        by_cases hnumber : c = '#'
        · subst hnumber
          cases hend : lineEnd? ('#' :: rest) <;> simp [hnewline, hend]
        · simp [hc, hnewline, hnumber]

theorem follows_line? (reading : Reading) (h : GoesOn t s u) :
    Follows (TiedOrOver t) (line? reading s) (line? reading u) := by
  have hspace := h.skipSpace
  obtain ⟨c, r, v, hr, hv⟩ := hspace.exists_cons
  rw [hr, hv] at hspace
  by_cases hc : c = '['
  · subst hc
    rw [line?, line?, hr, hv]
    exact follows_header? reading (hspace.tail (by decide))
  rw [line?_of_ne reading hr hc, line?_of_ne reading hv hc]
  obtain ⟨hs, hu⟩ | ⟨_, _, hs, hu, hrest⟩ := rel_cases (rel_newline? hspace)
  · rw [hs, hu]
    dsimp only
    split
    case isTrue =>
      exact .map (.of_rel (rel_lineEnd? hspace)) fun _ _ hrest => ⟨rfl, hrest⟩
    case isFalse => exact follows_keyValue? reading hspace
  · rw [hs, hu]
    exact .some ⟨rfl, hrest⟩

/-! ### All lines -/

/-- The reading at the end of a text. -/
def linesTo? (fuel : Nat) (reading : Reading) (s : List Char) : Option Reading :=
  match fuel with
  | 0 => none
  | fuel + 1 =>
    if skipSpace s = [] then some reading
    else line? reading s >>= fun x => linesTo? fuel x.1 x.2

/-- Lines are read one after the other: after the first ones, the rest is read from where they
have led to. -/
theorem exists_lines?_of_append {fuel fuel' : Nat} {reading reading' : Reading} {table : Table}
    (hbroken : s ≠ [] → s.getLast? = some '\n') (hs : linesTo? fuel reading s = some reading')
    (h : lines? fuel' reading (s ++ t) = some table) :
    ∃ fuel, lines? fuel reading' t = some table := by
  induction fuel generalizing fuel' reading s with
  | zero => cases hs
  | succ fuel ih =>
    by_cases hnil : s = []
    · subst hnil
      cases hs
      exact ⟨fuel', h⟩
    have hgoes : GoesOn t s (s ++ t) := ⟨hbroken hnil, rfl⟩
    rw [linesTo?, if_neg hgoes.skipSpace.ne_nil] at hs
    obtain ⟨⟨next, r⟩, hline, hs⟩ := Option.bind_eq_some_iff.1 hs
    obtain ⟨⟨_, v⟩, hline', rfl, rfl, hbroken⟩ := follows_line? reading hgoes _ hline
    cases fuel' with
    | zero => cases h
    | succ fuel' =>
      have hne : skipSpace (s ++ t) ≠ [] := by
        obtain ⟨c, r, v, -, hv⟩ := hgoes.skipSpace.exists_cons
        rw [hv]
        exact List.cons_ne_nil c v
      rw [lines?_succ, if_neg hne, hline'] at h
      exact ih hbroken hs h

end ImportWeb.Toml
