import ImportWeb.Proofs.Toml.Scalar
import ImportWeb.Toml.Parser

/-!
Reading strings, keys and values with more text to come. What is read up to a line break is read
again, and to the same value, if more text follows the line break. The converse does not hold
here: an array or a string that is still open at the line break goes on behind it.
-/

namespace ImportWeb.Toml

variable {α β : Type} {t s u r : List Char} {c : Char}

/-- What the first reader finds, the second one finds too. -/
def Follows (same : α → α → Prop) (a b : Option α) : Prop :=
  ∀ x, a = some x → ∃ y, b = some y ∧ same x y

namespace Follows

variable {same : α → α → Prop} {same' : β → β → Prop}

theorem of_rel {a b : Option α} (h : Option.Rel same a b) : Follows same a b := by
  rintro x rfl
  cases h with
  | some h => exact ⟨_, rfl, h⟩

theorem none {b : Option α} : Follows same Option.none b := by rintro x ⟨⟩

theorem some {x y : α} (h : same x y) : Follows same (Option.some x) (Option.some y) := by
  rintro _ ⟨⟩
  exact ⟨y, rfl, h⟩

theorem bind {a b : Option α} {k k' : α → Option β} (h : Follows same a b)
    (hk : ∀ x y, same x y → Follows same' (k x) (k' y)) :
    Follows same' (a >>= k) (b >>= k') := by
  intro z hz
  obtain ⟨x, rfl, hx⟩ := Option.bind_eq_some_iff.1 hz
  obtain ⟨y, rfl, hxy⟩ := h x rfl
  exact hk x y hxy z hx

theorem map {a b : Option α} {k k' : α → β} (h : Follows same a b)
    (hk : ∀ x y, same x y → same' (k x) (k' y)) : Follows same' (a.map k) (b.map k') := by
  intro z hz
  obtain ⟨x, rfl, rfl⟩ := Option.map_eq_some_iff.1 hz
  obtain ⟨y, rfl, hxy⟩ := h x rfl
  exact ⟨k' y, rfl, hk x y hxy⟩

end Follows

theorem GoesOn.length_le (h : GoesOn t s u) : s.length ≤ u.length := by
  rw [h.eq, List.length_append]
  omega

theorem ne_newline_of_isPlain (hc : isPlain c = true) : c ≠ '\n' :=
  ne_newline_of_isDigit (by decide) hc

/-! ### Blanks over several lines -/

theorem length_skipSpace_le (s : List Char) : (skipSpace s).length ≤ s.length :=
  List.length_dropWhile_le isSpace s

theorem length_of_newline? (h : newline? s = some r) : r.length < s.length := by
  unfold newline? at h
  split at h <;> cases h <;> simp only [List.length_cons] <;> omega

theorem length_of_comment? (h : comment? s = some r) : r.length < s.length := by
  unfold comment? at h
  split at h <;> cases h
  exact Nat.lt_succ_of_le (List.length_dropWhile_le isPlain _)

theorem skipBlank_nil (fuel : Nat) : skipBlank fuel [] = [] := by
  cases fuel <;> rfl

/-- The next line of the blanks, if there is one. -/
def blankLine? (s : List Char) : Option (List Char) :=
  (newline? (skipSpace s)).or ((comment? (skipSpace s)).bind newline?)

theorem skipBlank_succ (fuel : Nat) (s : List Char) :
    skipBlank (fuel + 1) s = (blankLine? s).elim (skipSpace s) (skipBlank fuel) := by
  rw [skipBlank, blankLine?]
  cases newline? (skipSpace s) with
  | some r => rfl
  | none => cases (comment? (skipSpace s)).bind newline? <;> rfl

theorem length_of_blankLine? (h : blankLine? s = some r) : r.length < s.length := by
  have hle := length_skipSpace_le s
  rcases Option.or_eq_some_iff.1 h with hnewline | ⟨-, hcomment⟩
  · exact Nat.lt_of_lt_of_le (length_of_newline? hnewline) hle
  · obtain ⟨rest, hrest, hnewline⟩ := Option.bind_eq_some_iff.1 hcomment
    have hr := length_of_newline? hnewline
    have hlt := length_of_comment? hrest
    omega

theorem rel_blankLine? (h : GoesOn t s u) :
    Option.Rel (GoesOnOrEnds t) (blankLine? s) (blankLine? u) := by
  rw [blankLine?, blankLine?]
  obtain ⟨hs, hu⟩ | ⟨r, v, hs, hu, hrest⟩ := rel_cases (rel_newline? h.skipSpace)
  · rw [hs, hu]
    exact rel_bind (rel_comment? h.skipSpace) fun _ _ => rel_newline?
  · rw [hs, hu]
    exact .some hrest

theorem skipBlank_goesOn {fuel fuel' : Nat} (hs : s.length < fuel) (hu : u.length < fuel')
    (h : GoesOn t s u) :
    skipBlank fuel s = [] ∨ GoesOn t (skipBlank fuel s) (skipBlank fuel' u) := by
  induction fuel generalizing fuel' s u with
  | zero => omega
  | succ fuel ih =>
    obtain ⟨fuel', rfl⟩ := Nat.exists_eq_add_one.2 (Nat.zero_lt_of_lt hu)
    rw [skipBlank_succ, skipBlank_succ]
    obtain ⟨hs', hu'⟩ | ⟨r, v, hs', hu', hrest⟩ := rel_cases (rel_blankLine? h)
    · rw [hs', hu']
      exact .inr h.skipSpace
    · rw [hs', hu']
      by_cases hr : r = []
      · subst hr
        exact .inl (skipBlank_nil fuel)
      · have hlts := length_of_blankLine? hs'
        have hltu := length_of_blankLine? hu'
        exact ih (by omega) (by omega) (hrest.goesOn hr)

/-! ### Strings -/

theorem rel_unicode? (width : Nat) (h : GoesOn t s u) :
    Option.Rel (Tied t) (unicode? width s) (unicode? width u) := by
  rw [unicode?, unicode?]
  simp only [Bool.and_eq_true, decide_eq_true_eq]
  rcases rel_fixed (show isHex '\n' = false by decide) width h with
    ⟨hlength, hdigits, htake, hrest⟩ | ⟨hs, hu⟩
  · rw [htake]
    split
    case isTrue => exact .some ⟨rfl, hrest⟩
    case isFalse => exact .none
  · rw [if_neg fun hbad => hs hbad.1, if_neg fun hbad => hu hbad.1]
    exact .none

/-- The first character of an escape says what it is. -/
theorem escape?_cons (c : Char) :
    (∃ d, c ≠ '\n' ∧ ∀ s, escape? (c :: s) = some (d, s)) ∨
      (∃ width, c ≠ '\n' ∧ ∀ s, escape? (c :: s) = unicode? width s) ∨
      ∀ s, escape? (c :: s) = none := by
  by_cases hb : c = 'b'
  · exact .inl ⟨'\x08', by rw [hb]; decide, fun s => by rw [hb]; rfl⟩
  by_cases ht : c = 't'
  · exact .inl ⟨'\t', by rw [ht]; decide, fun s => by rw [ht]; rfl⟩
  by_cases hn : c = 'n'
  · exact .inl ⟨'\n', by rw [hn]; decide, fun s => by rw [hn]; rfl⟩
  by_cases hf : c = 'f'
  · exact .inl ⟨'\x0c', by rw [hf]; decide, fun s => by rw [hf]; rfl⟩
  by_cases hr : c = 'r'
  · exact .inl ⟨'\r', by rw [hr]; decide, fun s => by rw [hr]; rfl⟩
  by_cases hquote : c = '"'
  · exact .inl ⟨'"', by rw [hquote]; decide, fun s => by rw [hquote]; rfl⟩
  by_cases hback : c = '\\'
  · exact .inl ⟨'\\', by rw [hback]; decide, fun s => by rw [hback]; rfl⟩
  by_cases hu : c = 'u'
  · exact .inr (.inl ⟨4, by rw [hu]; decide, fun s => by rw [hu]; rfl⟩)
  by_cases hU : c = 'U'
  · exact .inr (.inl ⟨8, by rw [hU]; decide, fun s => by rw [hU]; rfl⟩)
  · exact .inr (.inr fun s => by simp [escape?, *])

theorem rel_escape? (h : GoesOn t s u) : Option.Rel (Tied t) (escape? s) (escape? u) := by
  obtain ⟨c, s, u, rfl, rfl⟩ := h.exists_cons
  rcases escape?_cons c with ⟨d, hc, heq⟩ | ⟨width, hc, heq⟩ | heq
  · rw [heq, heq]
    exact .some ⟨rfl, h.tail hc⟩
  · rw [heq, heq]
    exact rel_unicode? width (h.tail hc)
  · rw [heq, heq]
    exact .none

theorem follows_basic? {fuel fuel' : Nat} (hfuel : fuel ≤ fuel') (done : List Char)
    (h : GoesOn t s u) : Follows (Tied t) (basic? fuel done s) (basic? fuel' done u) := by
  induction fuel generalizing fuel' done s u with
  | zero => exact .none
  | succ fuel ih =>
    obtain ⟨fuel', rfl⟩ := Nat.exists_eq_add_one.2 (Nat.zero_lt_of_lt hfuel)
    replace hfuel := Nat.le_of_succ_le_succ hfuel
    obtain ⟨c, s, u, rfl, rfl⟩ := h.exists_cons
    rw [basic?, basic?]
    split
    case isTrue hquote => exact .some ⟨rfl, h.tail (by rw [hquote]; decide)⟩
    split
    case isTrue hback =>
      obtain ⟨hs, hu⟩ | ⟨⟨d, r⟩, ⟨_, v⟩, hs, hu, rfl, hrest⟩ :=
        rel_cases (rel_escape? (h.tail (by rw [hback]; decide)))
      · rw [hs]
        exact .none
      · rw [hs, hu]
        exact ih hfuel _ hrest
    split
    case isTrue hplain => exact ih hfuel _ (h.tail (ne_newline_of_isPlain hplain))
    case isFalse => exact .none

theorem follows_literal? (h : GoesOn t s u) : Follows (Tied t) (literal? s) (literal? u) := by
  obtain ⟨htake, hdrop⟩ := h.run (p := fun c => c != '\'' && isPlain c) (by decide)
  rw [literal?, literal?]
  rw [drop_length_takeWhile, drop_length_takeWhile, htake]
  generalize s.dropWhile (fun c => c != '\'' && isPlain c) = r at hdrop ⊢
  generalize u.dropWhile (fun c => c != '\'' && isPlain c) = v at hdrop ⊢
  obtain ⟨c, r, v, rfl, rfl⟩ := hdrop.exists_cons
  by_cases hc : c = '\''
  · subst hc
    exact .some ⟨rfl, hdrop.tail (by decide)⟩
  · split
    · next heq => exact absurd (List.cons.inj heq).1 hc
    · exact .none

theorem GoesOnOrEnds.tail (h : GoesOnOrEnds t (c :: s) (c :: u)) : GoesOnOrEnds t s u :=
  (h.goesOn (List.cons_ne_nil c s)).tail_or

theorem skipLines_goesOn (h : GoesOnOrEnds t s u) :
    skipLines s = [] ∨ GoesOn t (skipLines s) (skipLines u) := by
  obtain ⟨rfl, hbroken⟩ := h
  have h : GoesOnOrEnds t s (s ++ t) := ⟨rfl, hbroken⟩
  clear hbroken
  induction s using skipLines.induct with
  | case1 s ih => exact ih h.tail
  | case2 s ih => exact ih h.tail.tail
  | case3 s ih => exact ih h.tail
  | case4 s ih => exact ih h.tail
  | case5 s hn hrn hspace htab =>
    cases s with
    | nil => exact .inl rfl
    | cons c s =>
      have hrest := h.goesOn (List.cons_ne_nil c s)
      rw [skipLines.eq_5 _ hn hrn hspace htab, skipLines.eq_5]
      · exact .inr hrest
      · rintro rest heq
        exact hn s (by rw [(List.cons.inj heq).1])
      · rintro rest heq
        obtain ⟨rfl, htail⟩ := List.cons.inj heq
        obtain ⟨d, s, _, rfl, -⟩ := (hrest.tail (by decide)).exists_cons
        have hd : d = '\n' := (List.cons.inj htail).1
        exact hrn s (by rw [hd])
      · rintro rest heq
        exact hspace s (by rw [(List.cons.inj heq).1])
      · rintro rest heq
        exact htab s (by rw [(List.cons.inj heq).1])

theorem rel_lineContinuation? (h : GoesOn t s u) :
    Option.Rel (fun r v => r = [] ∨ GoesOn t r v) (lineContinuation? s) (lineContinuation? u) :=
  rel_map (rel_newline? h.skipSpace) fun _ _ => skipLines_goesOn

theorem follows_multiline? {quote : Char} (hquote : quote ≠ '\n') {fuel fuel' : Nat}
    (hfuel : fuel ≤ fuel') (done : List Char) (h : GoesOn t s u) :
    Follows (Tied t) (multiline? quote fuel done s) (multiline? quote fuel' done u) := by
  induction fuel generalizing fuel' done s u with
  | zero => exact .none
  | succ fuel ih =>
    obtain ⟨fuel', rfl⟩ := Nat.exists_eq_add_one.2 (Nat.zero_lt_of_lt hfuel)
    replace hfuel := Nat.le_of_succ_le_succ hfuel
    -- Nothing is read once the first text is over.
    have hor {done r v : List Char} (hrest : r = [] ∨ GoesOn t r v) :
        Follows (Tied t) (multiline? quote fuel done r) (multiline? quote fuel' done v) := by
      rcases hrest with rfl | hrest
      · cases fuel <;> exact .none
      · exact ih hfuel done hrest
    obtain ⟨htake, hdrop⟩ := h.run (p := fun c => c = quote) (by simpa using hquote.symm)
    rw [← drop_length_takeWhile, ← drop_length_takeWhile, htake] at hdrop
    obtain ⟨c, s, u, rfl, rfl⟩ := h.exists_cons
    rw [multiline?, multiline?, htake]
    split
    case isTrue =>
      dsimp only
      split
      case isTrue => exact ih hfuel _ hdrop
      split
      case isTrue => exact .none
      case isFalse => exact .some ⟨rfl, hdrop⟩
    split
    case isTrue hback =>
      have hrest := h.tail (by rw [hback.1]; decide)
      obtain ⟨hs, hu⟩ | ⟨r, v, hs, hu, hlines⟩ := rel_cases (rel_lineContinuation? hrest)
      · rw [hs, hu]
        obtain ⟨hs, hu⟩ | ⟨⟨d, r⟩, ⟨_, v⟩, hs, hu, rfl, hescape⟩ := rel_cases (rel_escape? hrest)
        · rw [hs, hu]
          exact .none
        · rw [hs, hu]
          exact ih hfuel _ hescape
      · rw [hs, hu]
        exact hor hlines
    obtain ⟨hs, hu⟩ | ⟨r, v, hs, hu, hline⟩ := rel_cases (rel_newline? h)
    · rw [hs, hu]
      dsimp only
      split
      case isTrue hplain => exact ih hfuel _ (h.tail (ne_newline_of_isPlain hplain))
      case isFalse => exact .none
    · rw [hs, hu]
      exact hor (or_iff_not_imp_left.2 hline.goesOn)

theorem skipFirstNewline_goesOn (h : GoesOn t s u) :
    skipFirstNewline s = [] ∨ GoesOn t (skipFirstNewline s) (skipFirstNewline u) := by
  rw [skipFirstNewline, skipFirstNewline]
  obtain ⟨hs, hu⟩ | ⟨r, v, hs, hu, hrest⟩ := rel_cases (rel_newline? h)
  · rw [hs, hu]
    exact .inr h
  · rw [hs, hu]
    exact or_iff_not_imp_left.2 hrest.goesOn

/-- A string after three opening quotes. -/
theorem follows_multiline?_opened {quote : Char} (hquote : quote ≠ '\n') (h : GoesOn t s u) :
    Follows (Tied t) (multiline? quote (s.length + 1) [] (skipFirstNewline s))
      (multiline? quote (u.length + 1) [] (skipFirstNewline u)) := by
  rcases skipFirstNewline_goesOn h with hs | hrest
  · rw [hs]
    exact .none
  · exact follows_multiline? hquote (Nat.succ_le_succ h.length_le) [] hrest

theorem follows_string? (h : GoesOn t s u) : Follows (Tied t) (string? s) (string? u) := by
  obtain ⟨c, s, u, rfl, rfl⟩ := h.exists_cons
  by_cases hquote : c = '"'
  · subst hquote
    have hone := h.tail (by decide)
    have hbasic := follows_basic? (Nat.succ_le_succ hone.length_le) [] hone
    obtain ⟨d, s, u, rfl, rfl⟩ := hone.exists_cons
    by_cases hd : d = '"'
    · subst hd
      have htwo := hone.tail (by decide)
      obtain ⟨e, s, u, rfl, rfl⟩ := htwo.exists_cons
      by_cases he : e = '"'
      · subst he
        exact follows_multiline?_opened (by decide) (htwo.tail (by decide))
      · have hstring (s : List Char) : string? ('"' :: '"' :: e :: s) =
            basic? (('"' :: e :: s).length + 1) [] ('"' :: e :: s) := by simp [string?, he]
        rwa [hstring, hstring]
    · have hstring (s : List Char) :
          string? ('"' :: d :: s) = basic? ((d :: s).length + 1) [] (d :: s) := by
        simp [string?, hd]
      rwa [hstring, hstring]
  by_cases hquote : c = '\''
  · subst hquote
    have hone := h.tail (by decide)
    have hliteral := follows_literal? hone
    obtain ⟨d, s, u, rfl, rfl⟩ := hone.exists_cons
    by_cases hd : d = '\''
    · subst hd
      have htwo := hone.tail (by decide)
      obtain ⟨e, s, u, rfl, rfl⟩ := htwo.exists_cons
      by_cases he : e = '\''
      · subst he
        exact follows_multiline?_opened (by decide) (htwo.tail (by decide))
      · have hstring (s : List Char) :
            string? ('\'' :: '\'' :: e :: s) = literal? ('\'' :: e :: s) := by simp [string?, he]
        rwa [hstring, hstring]
    · have hstring (s : List Char) : string? ('\'' :: d :: s) = literal? (d :: s) := by
        simp [string?, hd]
      rwa [hstring, hstring]
  · have hnone : string? (c :: s) = none := by simp [string?, *]
    rw [hnone]
    exact .none

/-! ### Keys -/

theorem follows_simpleKey? (h : GoesOn t s u) :
    Follows (Tied t) (simpleKey? s) (simpleKey? u) := by
  obtain ⟨htake, hdrop⟩ := h.run (p := isBareKeyChar) (by decide)
  obtain ⟨c, s, u, rfl, rfl⟩ := h.exists_cons
  by_cases hquote : c = '"'
  · subst hquote
    have hrest := h.tail (by decide)
    exact follows_basic? (Nat.succ_le_succ hrest.length_le) [] hrest
  by_cases hquote : c = '\''
  · subst hquote
    exact follows_literal? (h.tail (by decide))
  · have hbare (s : List Char) : simpleKey? (c :: s) =
        if ((c :: s).takeWhile isBareKeyChar).isEmpty then none
        else some (String.ofList ((c :: s).takeWhile isBareKeyChar),
          (c :: s).dropWhile isBareKeyChar) := by
      rw [← drop_length_takeWhile]
      simp [simpleKey?, *]
    rw [hbare, hbare, htake]
    split
    case isTrue => exact .none
    case isFalse => exact .some ⟨rfl, hdrop⟩

/-- The parts of a key after the first one. -/
def partsAfter? (fuel : Nat) (key : String) : List Char → Option (List String × List Char)
  | '.' :: rest => (keyParts? fuel rest).map fun x => (key :: x.1, x.2)
  | rest => some ([key], rest)

theorem keyParts?_succ (fuel : Nat) (s : List Char) :
    keyParts? (fuel + 1) s =
      simpleKey? (skipSpace s) >>= fun x => partsAfter? fuel x.1 (skipSpace x.2) := by
  rw [keyParts?]
  congr 1
  funext ⟨key, rest⟩
  dsimp only
  generalize skipSpace rest = r
  cases r with
  | nil => rfl
  | cons c r =>
    by_cases hc : c = '.'
    · subst hc
      cases hrest : keyParts? fuel r <;> simp [partsAfter?, hrest]
    · simp [partsAfter?, hc]

theorem follows_keyParts? {fuel fuel' : Nat} (hfuel : fuel ≤ fuel') (h : GoesOn t s u) :
    Follows (Tied t) (keyParts? fuel s) (keyParts? fuel' u) := by
  induction fuel generalizing fuel' s u with
  | zero => exact .none
  | succ fuel ih =>
    obtain ⟨fuel', rfl⟩ := Nat.exists_eq_add_one.2 (Nat.zero_lt_of_lt hfuel)
    replace hfuel := Nat.le_of_succ_le_succ hfuel
    rw [keyParts?_succ, keyParts?_succ]
    refine .bind (follows_simpleKey? h.skipSpace) ?_
    rintro ⟨key, r⟩ ⟨_, v⟩ ⟨rfl, hrest⟩
    have hspace := hrest.skipSpace
    dsimp only
    obtain ⟨c, r, v, hr, hv⟩ := hspace.exists_cons
    rw [hr, hv] at hspace ⊢
    by_cases hc : c = '.'
    · subst hc
      refine .map (ih hfuel (hspace.tail (by decide))) ?_
      rintro ⟨keys, r⟩ ⟨_, v⟩ ⟨rfl, hrest⟩
      exact ⟨rfl, hrest⟩
    · have hlast (fuel : Nat) (r : List Char) :
          partsAfter? fuel key (c :: r) = some ([key], c :: r) := by simp [partsAfter?, hc]
      rw [hlast, hlast]
      exact .some ⟨rfl, hspace⟩

theorem follows_key? (h : GoesOn t s u) : Follows (Tied t) (key? s) (key? u) := by
  refine .bind (follows_keyParts? (Nat.succ_le_succ h.length_le) h) ?_
  rintro ⟨keys, r⟩ ⟨_, v⟩ ⟨rfl, hrest⟩
  dsimp only
  split
  case isTrue => exact .some ⟨rfl, hrest⟩
  case isFalse => exact .none

/-! ### Values -/

theorem value?_nil (fuel depth : Nat) : value? fuel depth [] = none := by
  cases fuel <;> rfl

theorem items?_nil (fuel depth : Nat) : items? fuel depth [] = none := by
  cases fuel with
  | zero => rfl
  | succ fuel =>
    rw [items?, value?_nil]
    · rfl
    · rintro rest ⟨⟩

/-- The rest of an array after one of its items. -/
def itemsAfter? (fuel depth : Nat) (item : Value) : List Char → Option (List Value × List Char)
  | ',' :: rest =>
    (items? fuel depth (skipBlank (rest.length + 1) rest)).map fun x => (item :: x.1, x.2)
  | ']' :: rest => some ([item], rest)
  | _ => none

/-- The rest of a table in braces after one of its fields. -/
def pairsAfter? (fuel depth : Nat) (t : Table) : List Char → Option (Table × List Char)
  | ',' :: rest => pairs? fuel depth t rest
  | '\x7d' :: rest => some (t, rest)
  | _ => none

/-- A table after its opening brace. -/
def braced? (fuel depth : Nat) : List Char → Option (Value × List Char)
  | '\x7d' :: rest => some (.table [], rest)
  | rest => (pairs? fuel depth .root rest).map fun x => (x.1.item.toValue, x.2)

theorem items?_succ (fuel depth : Nat) (hc : c ≠ ']') (s : List Char) :
    items? (fuel + 1) depth (c :: s) = value? fuel depth (c :: s) >>= fun x =>
      itemsAfter? fuel depth x.1 (skipBlank (x.2.length + 1) x.2) := by
  rw [items?]
  · congr 1
    funext ⟨item, rest⟩
    dsimp only
    generalize skipBlank (rest.length + 1) rest = r
    cases r with
    | nil => rfl
    | cons d r =>
      by_cases hcomma : d = ','
      · subst hcomma
        cases hrest : items? fuel depth (skipBlank (r.length + 1) r) <;>
          simp [itemsAfter?, hrest]
      by_cases hbracket : d = ']'
      · subst hbracket
        rfl
      · simp [itemsAfter?, hcomma, hbracket]
  · rintro rest heq
    exact hc (List.cons.inj heq).1

theorem pairs?_succ (fuel depth : Nat) (table : Table) (s : List Char) :
    pairs? (fuel + 1) depth table s = (do
      let (path, rest) ← key? s
      let rest ← Text.dropPrefix? ['='] rest
      let (v, rest) ← value? fuel depth (skipSpace rest)
      let table ← table.addValue path v
      pairsAfter? fuel depth table (skipSpace rest)) := by
  rw [pairs?]
  congr 1
  funext ⟨path, rest⟩
  cases rest with
  | nil => rfl
  | cons c rest =>
    by_cases hc : c = '='
    · subst hc
      rfl
    · have hnone : Text.dropPrefix? ['='] (c :: rest) = none := by
        simp [Text.dropPrefix?, List.isPrefixOf, Ne.symm hc]
      simp [hc, hnone]

theorem value?_bracket (fuel depth : Nat) (s : List Char) :
    value? (fuel + 1) depth ('[' :: s) =
      if depth + 1 < depthLimit then
        (items? fuel (depth + 1) (skipBlank (s.length + 1) s)).map fun x => (.array x.1, x.2)
      else none := by
  rw [value?]
  split
  · cases items? fuel (depth + 1) (skipBlank (s.length + 1) s) <;> rfl
  · rfl

theorem value?_brace (fuel depth : Nat) (s : List Char) :
    value? (fuel + 1) depth ('\x7b' :: s) =
      if depth + 1 < depthLimit then braced? fuel (depth + 1) (skipSpace s) else none := by
  rw [value?]
  split
  · generalize skipSpace s = r
    cases r with
    | nil => cases hpairs : pairs? fuel (depth + 1) .root [] <;> simp [braced?, hpairs]
    | cons c r =>
      by_cases hc : c = '\x7d'
      · subst hc
        rfl
      · cases hpairs : pairs? fuel (depth + 1) .root (c :: r) <;> simp [braced?, hc, hpairs]
  · rfl

theorem value?_of_not (hc : c ∉ ['"', '\'', '[', '\x7b', 't', 'f', 'i', 'n']) (fuel depth : Nat)
    (s : List Char) : value? (fuel + 1) depth (c :: s) = numeric? (c :: s) := by
  simp only [List.mem_cons, not_or] at hc
  obtain ⟨hquote, hliteral, hbracket, hbrace, ht, hf, hi, hn, -⟩ := hc
  simp [value?, *]

/-- An empty string, unless its quotes are the first two of three. -/
theorem value?_empty {rest : List Char} (hrest : rest.head? ≠ some '"') (fuel depth : Nat) :
    value? (fuel + 1) depth ('"' :: '"' :: rest) = some (.string "", rest) := by
  cases rest with
  | nil => rfl
  | cons c rest =>
    have hc : ¬ c = '"' := fun hc => hrest (congrArg some hc)
    have hstring : string? ('"' :: '"' :: c :: rest) = some ("", c :: rest) := by
      simp [string?, hc, basic?]
    rw [value?, hstring]
    rfl

/-- Values, items of arrays and fields of tables are read again with more text to come. -/
structure FollowsOn (t : List Char) (fuel fuel' : Nat) : Prop where
  value (depth : Nat) {s u : List Char} :
    GoesOn t s u → Follows (Tied t) (value? fuel depth s) (value? fuel' depth u)
  items (depth : Nat) {s u : List Char} :
    GoesOn t s u → Follows (Tied t) (items? fuel depth s) (items? fuel' depth u)
  pairs (depth : Nat) (table : Table) {s u : List Char} :
    GoesOn t s u → Follows (Tied t) (pairs? fuel depth table s) (pairs? fuel' depth table u)

namespace FollowsOn

variable {fuel fuel' : Nat}

theorem itemsFromBlank (h : FollowsOn t fuel fuel') (depth : Nat) (hs : GoesOn t s u) :
    Follows (Tied t) (items? fuel depth (skipBlank (s.length + 1) s))
      (items? fuel' depth (skipBlank (u.length + 1) u)) := by
  rcases skipBlank_goesOn (Nat.lt_succ_self _) (Nat.lt_succ_self _) hs with hnil | hrest
  · rw [hnil, items?_nil]
    exact .none
  · exact h.items depth hrest

theorem itemsAfter (h : FollowsOn t fuel fuel') (depth : Nat) (item : Value) (hs : GoesOn t s u) :
    Follows (Tied t) (itemsAfter? fuel depth item s) (itemsAfter? fuel' depth item u) := by
  obtain ⟨c, s, u, rfl, rfl⟩ := hs.exists_cons
  by_cases hcomma : c = ','
  · subst hcomma
    refine .map (h.itemsFromBlank depth (hs.tail (by decide))) ?_
    rintro ⟨items, r⟩ ⟨_, v⟩ ⟨rfl, hrest⟩
    exact ⟨rfl, hrest⟩
  by_cases hbracket : c = ']'
  · subst hbracket
    exact .some ⟨rfl, hs.tail (by decide)⟩
  · have hnone : itemsAfter? fuel depth item (c :: s) = none := by
      simp [itemsAfter?, hcomma, hbracket]
    rw [hnone]
    exact .none

theorem pairsAfter (h : FollowsOn t fuel fuel') (depth : Nat) (table : Table)
    (hs : GoesOn t s u) :
    Follows (Tied t) (pairsAfter? fuel depth table s) (pairsAfter? fuel' depth table u) := by
  obtain ⟨c, s, u, rfl, rfl⟩ := hs.exists_cons
  by_cases hcomma : c = ','
  · subst hcomma
    exact h.pairs depth table (hs.tail (by decide))
  by_cases hbrace : c = '\x7d'
  · subst hbrace
    exact .some ⟨rfl, hs.tail (by decide)⟩
  · have hnone : pairsAfter? fuel depth table (c :: s) = none := by
      simp [pairsAfter?, hcomma, hbrace]
    rw [hnone]
    exact .none

theorem braced (h : FollowsOn t fuel fuel') (depth : Nat) (hs : GoesOn t s u) :
    Follows (Tied t) (braced? fuel depth s) (braced? fuel' depth u) := by
  obtain ⟨c, s, u, rfl, rfl⟩ := hs.exists_cons
  by_cases hbrace : c = '\x7d'
  · subst hbrace
    exact .some ⟨rfl, hs.tail (by decide)⟩
  · have hpairs (fuel : Nat) (s : List Char) : braced? fuel depth (c :: s) =
        (pairs? fuel depth .root (c :: s)).map fun x => (x.1.item.toValue, x.2) := by
      simp [braced?, hbrace]
    rw [hpairs, hpairs]
    refine .map (h.pairs depth .root hs) ?_
    rintro ⟨table, r⟩ ⟨_, v⟩ ⟨rfl, hrest⟩
    exact ⟨rfl, hrest⟩

theorem value_succ (h : FollowsOn t fuel fuel') (depth : Nat) (hs : GoesOn t s u) :
    Follows (Tied t) (value? (fuel + 1) depth s) (value? (fuel' + 1) depth u) := by
  obtain ⟨c, s, u, rfl, rfl⟩ := hs.exists_cons
  by_cases hc : c ∈ ['"', '\'', '[', '\x7b', 't', 'f', 'i', 'n']
  case neg =>
    rw [value?_of_not hc, value?_of_not hc]
    exact .of_rel (rel_numeric? hs)
  have hstring := follows_string? hs
  have hspecial := rel_specialFloat? hs
  have hrest := hs.tail (by rintro rfl; revert hc; decide)
  simp only [List.mem_cons, List.not_mem_nil, or_false] at hc
  rcases hc with rfl | rfl | rfl | rfl | rfl | rfl | rfl | rfl
  case inl | inr.inl =>
    refine .map hstring ?_
    rintro ⟨text, r⟩ ⟨_, v⟩ ⟨rfl, hrest⟩
    exact ⟨rfl, hrest⟩
  case inr.inr.inl =>
    rw [value?_bracket, value?_bracket]
    split
    case isTrue =>
      refine .map (h.itemsFromBlank _ hrest) ?_
      rintro ⟨items, r⟩ ⟨_, v⟩ ⟨rfl, hrest⟩
      exact ⟨rfl, hrest⟩
    case isFalse => exact .none
  case inr.inr.inr.inl =>
    rw [value?_brace, value?_brace]
    split
    case isTrue => exact h.braced _ hrest.skipSpace
    case isFalse => exact .none
  case inr.inr.inr.inr.inl =>
    exact .map (.of_rel (rel_dropPrefix? "rue".toList (by decide) hrest)) fun _ _ hr => ⟨rfl, hr⟩
  case inr.inr.inr.inr.inr.inl =>
    exact .map (.of_rel (rel_dropPrefix? "alse".toList (by decide) hrest)) fun _ _ hr => ⟨rfl, hr⟩
  all_goals exact .of_rel hspecial

theorem items_succ (h : FollowsOn t fuel fuel') (depth : Nat) (hs : GoesOn t s u) :
    Follows (Tied t) (items? (fuel + 1) depth s) (items? (fuel' + 1) depth u) := by
  obtain ⟨c, s, u, rfl, rfl⟩ := hs.exists_cons
  by_cases hc : c = ']'
  · subst hc
    exact .some ⟨rfl, hs.tail (by decide)⟩
  rw [items?_succ fuel depth hc, items?_succ fuel' depth hc]
  refine .bind (h.value depth hs) ?_
  rintro ⟨item, r⟩ ⟨_, v⟩ ⟨rfl, hrest⟩
  rcases skipBlank_goesOn (Nat.lt_succ_self _) (Nat.lt_succ_self _) hrest with hnil | hblank
  · dsimp only
    rw [hnil]
    exact .none
  · exact h.itemsAfter depth item hblank

theorem pairs_succ (h : FollowsOn t fuel fuel') (depth : Nat) (table : Table)
    (hs : GoesOn t s u) :
    Follows (Tied t) (pairs? (fuel + 1) depth table s) (pairs? (fuel' + 1) depth table u) := by
  rw [pairs?_succ, pairs?_succ]
  refine .bind (follows_key? hs) ?_
  rintro ⟨path, r⟩ ⟨_, v⟩ ⟨rfl, hkey⟩
  refine .bind (.of_rel (rel_dropPrefix? ['='] (by decide) hkey)) fun r v hequals => ?_
  refine .bind (h.value depth hequals.skipSpace) ?_
  rintro ⟨value, r⟩ ⟨_, v⟩ ⟨rfl, hrest⟩
  dsimp only
  cases table.addValue path value with
  | none => exact .none
  | some table => exact h.pairsAfter depth table hrest.skipSpace

end FollowsOn

theorem followsOn {fuel fuel' : Nat} (hfuel : fuel ≤ fuel') : FollowsOn t fuel fuel' := by
  induction fuel generalizing fuel' with
  | zero => exact ⟨fun _ _ _ _ => .none, fun _ _ _ _ => .none, fun _ _ _ _ _ => .none⟩
  | succ fuel ih =>
    obtain ⟨fuel', rfl⟩ := Nat.exists_eq_add_one.2 (Nat.zero_lt_of_lt hfuel)
    have h := ih (Nat.le_of_succ_le_succ hfuel)
    exact ⟨fun depth _ _ => h.value_succ depth, fun depth _ _ => h.items_succ depth,
      fun depth table _ _ => h.pairs_succ depth table⟩

end ImportWeb.Toml
