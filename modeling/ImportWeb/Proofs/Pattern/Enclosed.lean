import ImportWeb.Proofs.Pattern.Item

/-!
A pattern put in a group. Reading a text in the parentheses of a group takes the same steps as
reading it alone, with that group below the stack. The two part ways at the text's end, where a
comment may have swallowed the closing parenthesis, and at a parenthesis that closes more than the
text has opened.
-/

namespace ImportWeb.Pattern.Reader

namespace State

/-- The same state before another text. -/
def withRest (st : State) (t : List Char) : State := { st with rest := t }

/-- The same state with more groups open around it. -/
def under (st : State) (base : List OpenGroup) : State := { st with outer := st.outer ++ base }

/-- The name of the outermost group. -/
def rootName (st : State) : Option (List Char) := (st.outer.getLastD st.group).name

end State

variable {s t : List Char} {c : Char} {st x y : State}

/-! ### The groups around -/

theorem State.repeatLast?_under (min : Nat) (max : Option Nat) (rest : List Char)
    (base : List OpenGroup) :
    (st.under base).repeatLast? min max rest =
      (st.repeatLast? min max rest).map (·.under base) := by
  unfold State.repeatLast?
  change (st.group.repeatLast? (greed st.flags rest).1 min max).bind _ =
    ((st.group.repeatLast? (greed st.flags rest).1 min max).bind _).map _
  cases st.group.repeatLast? (greed st.flags rest).1 min max <;> rfl

theorem State.open?_under (rest : List Char) (opening : Opening) (base : List OpenGroup) :
    (st.under base).open? rest opening = (st.open? rest opening).map (·.under base) := by
  match opening with
  | .capture none => rfl
  | .capture (some name) =>
    change (if st.names.contains name then none else _) =
      (if st.names.contains name then none else _).map _
    split <;> rfl
  | .plain _ => rfl
  | .change _ => rfl

theorem State.close?_under (rest : List Char) (base : List OpenGroup) (h : st.outer ≠ []) :
    (st.under base).close? rest = (st.close? rest).map (·.under base) := by
  obtain ⟨parent, outer, houter⟩ := List.exists_cons_of_ne_nil h
  unfold State.close? State.under
  rw [houter]
  rfl

theorem bind_eq_map_bind {α β : Type} {g : β → β} (a : Option α) {k k' : α → Option β}
    (h : ∀ x, k x = (k' x).map g) : (a >>= k) = (a >>= k').map g := by
  cases a with
  | none => rfl
  | some x => exact h x

/-- An item does not look at the groups around, unless it closes the last one that it sees. -/
theorem State.item?_under (st : State) (c : Char) (rest : List Char) (base : List OpenGroup)
    (h : c = ')' → st.outer ≠ []) :
    (st.under base).item? c rest = (st.item? c rest).map (·.under base) := by
  unfold State.item?
  dsimp only
  split
  case h_1 => exact bind_eq_map_bind _ fun x => st.open?_under x.2 x.1 base
  case h_2 => exact st.close?_under rest base (h rfl)
  case h_3 => rfl
  case h_4 => exact bind_eq_map_bind _ fun _ => bind_eq_map_bind _ fun _ => rfl
  case h_5 => exact st.repeatLast?_under _ _ _ base
  case h_6 => exact st.repeatLast?_under _ _ _ base
  case h_7 => exact st.repeatLast?_under _ _ _ base
  case h_8 => exact bind_eq_map_bind _ fun _ => st.repeatLast?_under _ _ _ base
  case h_9 => exact bind_eq_map_bind _ fun _ => bind_eq_map_bind _ fun _ => rfl
  case h_10 => exact bind_eq_map_bind _ fun _ => rfl
  case h_11 => rfl
  case h_12 => rfl
  case h_13 => exact bind_eq_map_bind _ fun _ => rfl

/-- The text that was left does not count once an item is read. -/
theorem State.item?_withRest (st : State) (t : List Char) (c : Char) (rest : List Char) :
    (st.withRest t).item? c rest = st.item? c rest := by
  unfold State.item?
  split <;> rfl

/-! ### The outermost group -/

theorem forall_mem_bind {α β : Type} {p : β → Prop} {a : Option α} {k : α → Option β}
    (h : ∀ x, ∀ y ∈ k x, p y) : ∀ y ∈ a >>= k, p y := by
  cases a with
  | none => nofun
  | some x => exact h x

theorem getLastD_name_congr {g g' : OpenGroup} (h : g.name = g'.name) (outer : List OpenGroup) :
    (outer.getLastD g).name = (outer.getLastD g').name := by
  cases outer with
  | nil => exact h
  | cons parent outer => rfl

theorem State.rootName_congr (hname : x.group.name = st.group.name) (houter : x.outer = st.outer) :
    x.rootName = st.rootName := by
  rw [State.rootName, houter]
  exact getLastD_name_congr hname st.outer

theorem State.rootName_repeatLast? (st : State) (min : Nat) (max : Option Nat)
    (rest : List Char) : ∀ x ∈ st.repeatLast? min max rest, x.rootName = st.rootName := by
  intro x hx
  unfold State.repeatLast? OpenGroup.repeatLast? at hx
  dsimp only at hx
  split at hx
  case h_1 =>
    cases hx
    exact State.rootName_congr rfl rfl
  case h_2 => cases hx

theorem State.rootName_open? (st : State) (rest : List Char) (opening : Opening) :
    ∀ x ∈ st.open? rest opening, x.rootName = st.rootName := by
  have henter (name : Option (List Char)) (inner : Flags) (names : List (List Char)) :
      State.rootName { st.enter name inner rest with names := names } = st.rootName := by
    rw [State.rootName, State.enter, List.getLastD_cons]
    rfl
  intro x hx
  match opening with
  | .capture none =>
    cases hx
    exact henter _ _ _
  | .capture (some name) =>
    unfold State.open? at hx
    dsimp only at hx
    split at hx
    · cases hx
    · cases hx
      exact henter _ _ _
  | .plain _ =>
    cases hx
    exact henter _ _ _
  | .change _ =>
    cases hx
    exact State.rootName_congr rfl rfl

theorem State.rootName_close? (st : State) (rest : List Char) :
    ∀ x ∈ st.close? rest, x.rootName = st.rootName := by
  intro x hx
  unfold State.close? at hx
  split at hx
  case h_1 => cases hx
  case h_2 parent outer houter =>
    cases hx
    rw [State.rootName, State.rootName, houter, List.getLastD_cons]
    exact getLastD_name_congr (show (parent.push _ _).name = parent.name from rfl) outer

theorem State.rootName_item? (st : State) (c : Char) (rest : List Char) :
    ∀ x ∈ st.item? c rest, x.rootName = st.rootName := by
  have hpush (e : Expr) (depth : Nat) (rest : List Char) :
      ∀ x ∈ some (st.push e depth rest), x.rootName = st.rootName := by
    rintro x ⟨⟩
    exact State.rootName_congr rfl rfl
  unfold State.item?
  dsimp only
  split
  case h_1 => exact forall_mem_bind fun x => st.rootName_open? x.2 x.1
  case h_2 => exact st.rootName_close? rest
  case h_3 => rintro x ⟨⟩; exact State.rootName_congr rfl rfl
  case h_4 => exact forall_mem_bind fun _ => forall_mem_bind fun _ => hpush _ _ _
  case h_5 => exact st.rootName_repeatLast? _ _ rest
  case h_6 => exact st.rootName_repeatLast? _ _ rest
  case h_7 => exact st.rootName_repeatLast? _ _ rest
  case h_8 => exact forall_mem_bind fun _ => st.rootName_repeatLast? _ _ _
  case h_9 => exact forall_mem_bind fun _ => forall_mem_bind fun _ => hpush _ _ _
  case h_10 => exact forall_mem_bind fun _ => hpush _ _ _
  case h_11 => exact hpush _ _ _
  case h_12 => exact hpush _ _ _
  case h_13 => exact forall_mem_bind fun _ => hpush _ _ _

/-! ### A parenthesis after the text -/

/-- Two states that differ in the text that is left only. -/
structure Alike (s t : List Char) (x y : State) : Prop where
  eq : y = x.withRest y.rest
  rests : Rests s t x.rest y.rest

/-- A state after which an open group stays open. -/
def Ended (st : State) : Prop := Dead st.flags st.rest

theorem Parallel.after_alike {r u : List Char} {a b : Option State}
    (h : Parallel (Alike r u) Ended a b) (hrests : Rests s t r u) :
    Parallel (Alike s t) Ended a b :=
  h.imp (fun _ _ hxy => ⟨hxy.eq, hrests.trans hxy.rests⟩) (fun _ => id)

theorem State.parallel_repeatLast? (st : State) (min : Nat) (max : Option Nat) (h : Shut s t) :
    Parallel (Alike s t) Ended (st.repeatLast? min max s) (st.repeatLast? min max t) := by
  have htied := tied_greed (f := st.flags) h
  unfold State.repeatLast?
  dsimp only
  rw [← htied.1]
  cases st.group.repeatLast? (greed st.flags s).1 min max with
  | none => exact .none
  | some group => exact .some ⟨rfl, htied.2⟩

theorem State.parallel_open? (st : State) (opening : Opening) (h : Shut s t) :
    Parallel (Alike s t) Ended (st.open? s opening) (st.open? t opening) := by
  match opening with
  | .capture none => exact .some ⟨rfl, h.rests⟩
  | .capture (some name) =>
    unfold State.open?
    dsimp only
    split
    · exact .none
    · exact .some ⟨rfl, h.rests⟩
  | .plain _ => exact .some ⟨rfl, h.rests⟩
  | .change _ => exact .some ⟨rfl, h.rests⟩

theorem State.parallel_close? (st : State) (h : Shut s t) :
    Parallel (Alike s t) Ended (st.close? s) (st.close? t) := by
  unfold State.close?
  split
  · exact .none
  · exact .some ⟨rfl, h.rests⟩

theorem State.parallel_push (st : State) (e : Option Expr) (depth : Nat) (h : Shut s t) :
    Parallel (Alike s t) Ended (e.bind fun e => some (st.push e depth s))
      (e.bind fun e => some (st.push e depth t)) := by
  cases e with
  | none => exact .none
  | some e => exact .some ⟨rfl, h.rests⟩

/-- An opening parenthesis whose group ends the text opens a group that nothing closes. -/
theorem State.parallel_open?_of_nil (st : State) (opening : Opening) :
    Parallel (Alike s t) Ended none (st.open? [] opening) := by
  match opening with
  | .capture none => exact .lost (.inl rfl)
  | .capture (some name) =>
    unfold State.open?
    dsimp only
    split
    · exact .none
    · exact .lost (.inl rfl)
  | .plain _ => exact .lost (.inl rfl)
  | .change _ => exact .lost (.inl rfl)

theorem State.parallel_escaped (st : State) (h : Shut s t) :
    Parallel (Alike s t) Ended
      (do
        let (p, rest) ← escape? st.flags s
        return st.push (← primitiveExpr? st.flags p) 0 rest)
      (do
        let (p, rest) ← escape? st.flags t
        return st.push (← primitiveExpr? st.flags p) 0 rest) := by
  refine (parallel_escape? h).bind ?_ ?_
  · rintro ⟨p, r⟩ ⟨_, u⟩ ⟨rfl, hrests⟩
    exact (st.parallel_push _ 0 hrests.shut).after_alike hrests
  · rintro ⟨p, u⟩ hu
    dsimp only
    cases primitiveExpr? st.flags p with
    | none => exact .none
    | some e => exact .lost hu.dead

theorem State.parallel_bracket (st : State) (h : Shut s t) :
    Parallel (Alike s t) Ended
      (do
        let (c, rest) ← openClass? st.flags s
        let (set, depth, rest) ← class? st.flags (rest.length + 1) c [] rest
        return st.push (.chars set) depth rest)
      (do
        let (c, rest) ← openClass? st.flags t
        let (set, depth, rest) ← class? st.flags (rest.length + 1) c [] rest
        return st.push (.chars set) depth rest) := by
  refine (parallel_openClass? h).bind ?_ ?_
  · rintro ⟨o, r⟩ ⟨_, u⟩ ⟨rfl, hrests⟩
    refine (parallel_class? o [] hrests.shut (Nat.lt_succ_self _) (Nat.lt_succ_self _)).bind ?_
      (fun _ => False.elim)
    rintro ⟨set, depth, r'⟩ ⟨_, _, u'⟩ ⟨rfl, rfl, hrests'⟩
    exact .some ⟨rfl, hrests.trans hrests'⟩
  · rintro ⟨o, u⟩ hu
    dsimp only
    rw [class?_of_unclosed o [] hu]
    exact .none

/-- An item takes no more of a text for a parenthesis that follows. -/
theorem State.parallel_item? (st : State) (c : Char) (h : Shut s t) :
    Parallel (Alike s t) Ended (st.item? c s) (st.item? c t) := by
  unfold State.item?
  dsimp only
  split
  case h_1 =>
    refine (parallel_opening? h).bind ?_ ?_
    · rintro ⟨opening, r⟩ ⟨_, u⟩ ⟨rfl, hrests⟩
      exact (st.parallel_open? opening hrests.shut).after_alike hrests
    · rintro ⟨opening, _⟩ rfl
      exact st.parallel_open?_of_nil opening
  case h_2 => exact st.parallel_close? h
  case h_3 => exact .some ⟨rfl, h.rests⟩
  case h_4 => exact st.parallel_bracket h
  case h_5 => exact st.parallel_repeatLast? _ _ h
  case h_6 => exact st.parallel_repeatLast? _ _ h
  case h_7 => exact st.parallel_repeatLast? _ _ h
  case h_8 =>
    refine (parallel_bounds? h).bind ?_ (fun _ => False.elim)
    rintro ⟨min, max, r⟩ ⟨_, _, u⟩ ⟨rfl, rfl, hrests⟩
    exact (st.parallel_repeatLast? min max hrests.shut).after_alike hrests
  case h_9 => exact st.parallel_escaped h
  case h_10 => exact st.parallel_push _ 0 h
  case h_11 => exact .some ⟨rfl, h.rests⟩
  case h_12 => exact .some ⟨rfl, h.rests⟩
  case h_13 => exact st.parallel_push _ 0 h

/-! ### The whole text -/

theorem pattern?_of_nil (st : State) {fuel : Nat} (h : skip st.flags st.rest = []) :
    pattern? (fuel + 1) st = if st.outer.isEmpty then some st.group.close else none := by
  rw [pattern?, h]

theorem pattern?_of_cons (st : State) {fuel : Nat} {rest : List Char}
    (h : skip st.flags st.rest = c :: rest) :
    pattern? (fuel + 1) st = (st.item? c rest).bind (pattern? fuel) := by
  rw [pattern?, h]

/-- A brace begins bounds. -/
theorem State.item?_brace (st : State) {rest : List Char} (h : bounds? st.flags rest = none) :
    st.item? '\x7b' rest = none := by
  change Option.bind (bounds? st.flags rest) _ = none
  rw [h]
  rfl

/-- A state after which a group is open stays so at the end of the text. -/
theorem pattern?_of_ended (st : State) {fuel : Nat} (h : Ended st) (houter : st.outer ≠ []) :
    pattern? fuel st = none := by
  cases fuel with
  | zero => rfl
  | succ fuel =>
    have hskip := h.skip_eq
    rcases h with hnil | ⟨r, hr, hbare⟩
    · rw [pattern?_of_nil st (hskip.trans hnil)]
      exact if_neg (by simpa using houter)
    · rw [pattern?_of_cons st (hskip.trans hr), st.item?_brace (bounds?_eq_none hbare)]
      rfl

/-- A text that closes a group it has not opened: reading it leads to a closing parenthesis while
only the whole pattern is open. -/
inductive ClosesUnopened : State → Prop
  | here {st : State} {rest : List Char} (hskip : skip st.flags st.rest = ')' :: rest)
      (houter : st.outer = []) : ClosesUnopened st
  | later {st st' : State} {c : Char} {rest : List Char} (hskip : skip st.flags st.rest = c :: rest)
      (hitem : st.item? c rest = some st') (h : ClosesUnopened st') : ClosesUnopened st

/-- How a text reads alone, with a closing parenthesis after it, and with that inside of an open
group `parent`. -/
inductive Enclosure (parent : OpenGroup) (st : State) :
    Option (Expr × Nat) → Option (Expr × Nat) → Option (Expr × Nat) → Prop
  | closed (e : Expr) (depth : Nat) : Enclosure parent st (some (e, depth)) none
      (some (parent.push (.group st.rootName e) (depth + 1)).close)
  | swallowed (e : Expr) (depth : Nat) :
      Enclosure parent st (some (e, depth)) (some (e, depth)) none
  | wrong (a : Option (Expr × Nat)) : Enclosure parent st none a none
  | unopened (a b : Option (Expr × Nat)) (h : ClosesUnopened st) : Enclosure parent st none a b

theorem Enclosure.later {parent : OpenGroup} {rest : List Char} {a b e : Option (Expr × Nat)}
    (hskip : skip st.flags st.rest = c :: rest) (hitem : st.item? c rest = some x)
    (h : Enclosure parent x a b e) : Enclosure parent st a b e := by
  cases h with
  | closed e depth =>
    rw [st.rootName_item? c rest x hitem]
    exact .closed e depth
  | swallowed e depth => exact .swallowed e depth
  | wrong => exact .wrong _
  | unopened _ _ h => exact .unopened _ _ (.later hskip hitem h)

/-- A comment at the end of the text has swallowed the parenthesis. -/
theorem enclosure_of_nil (parent : OpenGroup) {fuel fuel' fuel'' : Nat}
    (h : skip st.flags st.rest = []) (ht : skip st.flags t = []) :
    Enclosure parent st (pattern? (fuel + 1) st) (pattern? (fuel' + 1) (st.withRest t))
      (pattern? (fuel'' + 1) ((st.withRest t).under [parent])) := by
  have henclosed : pattern? (fuel'' + 1) ((st.withRest t).under [parent]) = none := by
    rw [pattern?_of_nil ((st.withRest t).under [parent]) ht]
    exact if_neg (by simp [State.under])
  rw [pattern?_of_nil st h, pattern?_of_nil (st.withRest t) ht, henclosed]
  change Enclosure parent st _ (if st.outer.isEmpty then some st.group.close else none) _
  split
  · exact .swallowed _ _
  · exact .wrong _

/-- At the end of the text the parenthesis closes the innermost group. -/
theorem enclosure_of_parenthesis (parent : OpenGroup) {fuel fuel' fuel'' : Nat}
    (h : skip st.flags st.rest = []) (ht : skip st.flags t = [')']) :
    Enclosure parent st (pattern? (fuel + 1) st) (pattern? (fuel' + 1) (st.withRest t))
      (pattern? (fuel'' + 2) ((st.withRest t).under [parent])) := by
  rw [pattern?_of_nil st h, pattern?_of_cons (st.withRest t) ht,
    pattern?_of_cons ((st.withRest t).under [parent]) ht]
  obtain ⟨flags, names, group, outer, rest⟩ := st
  cases outer with
  | nil =>
    change Enclosure parent _ (some group.close) none (pattern? (fuel'' + 1)
      ⟨group.outerFlags, names, parent.push (.group group.name group.close.1) (group.close.2 + 1),
        [], []⟩)
    rw [pattern?_of_nil _ (skip_nil _)]
    exact .closed group.close.1 group.close.2
  | cons g outer =>
    change Enclosure parent _ none _ (pattern? (fuel'' + 1)
      ⟨group.outerFlags, names, g.push (.group group.name group.close.1) (group.close.2 + 1),
        outer ++ [parent], []⟩)
    rw [pattern?_of_nil _ (skip_nil _)]
    dsimp only
    rw [if_neg (by simp)]
    exact .wrong _

/-- One item is read with the same outcome, and the rest of the text decides. -/
theorem enclosure_of_cons (parent : OpenGroup) {fuel fuel' fuel'' : Nat} {r u : List Char}
    (hs : skip st.flags st.rest = c :: r) (ht : skip st.flags t = c :: u) (h : Shut r u)
    (ih : ∀ x y, Alike r u x y → Enclosure parent x (pattern? fuel x) (pattern? fuel' y)
      (pattern? fuel'' (y.under [parent]))) :
    Enclosure parent st (pattern? (fuel + 1) st) (pattern? (fuel' + 1) (st.withRest t))
      (pattern? (fuel'' + 1) ((st.withRest t).under [parent])) := by
  rw [pattern?_of_cons st hs, pattern?_of_cons (st.withRest t) ht,
    pattern?_of_cons ((st.withRest t).under [parent]) ht]
  by_cases hclose : c = ')' → st.outer ≠ []
  case neg =>
    obtain ⟨rfl, houter⟩ : c = ')' ∧ st.outer = [] := by simpa using hclose
    have hnone : st.item? ')' r = none := by
      change st.close? r = none
      rw [State.close?, houter]
    rw [hnone]
    exact .unopened _ _ (.here hs houter)
  case pos =>
    rw [State.item?_under (st.withRest t) c u [parent] hclose, State.item?_withRest]
    have hitem := st.parallel_item? c h
    cases hx : st.item? c r with
    | none =>
      cases hy : st.item? c u with
      | none => exact .wrong _
      | some y =>
        rw [hx, hy] at hitem
        cases hitem with
        | lost hended =>
          change Enclosure parent st none _ (pattern? fuel'' (y.under [parent]))
          rw [pattern?_of_ended (y.under [parent]) hended (by simp [State.under])]
          exact .wrong _
    | some x =>
      cases hy : st.item? c u with
      | none =>
        rw [hx, hy] at hitem
        cases hitem
      | some y =>
        rw [hx, hy] at hitem
        cases hitem with
        | some halike => exact .later hs hx (ih x y halike)

theorem enclosure_pattern? (parent : OpenGroup) {fuel fuel' fuel'' : Nat} (h : Shut st.rest t)
    (hfuel : st.rest.length < fuel) (hfuel' : t.length < fuel') (hfuel'' : t.length < fuel'') :
    Enclosure parent st (pattern? fuel st) (pattern? fuel' (st.withRest t))
      (pattern? fuel'' ((st.withRest t).under [parent])) := by
  induction fuel generalizing fuel' fuel'' st t with
  | zero => omega
  | succ fuel ih =>
    obtain ⟨fuel', rfl⟩ := Nat.exists_eq_add_one_of_ne_zero (Nat.ne_zero_of_lt hfuel')
    have hskip := h.skip st.flags
    cases hs : skip st.flags st.rest with
    | nil =>
      rcases (hs ▸ hskip.shut).refl_or with ht | ht
      · have hlen := hskip.le'
        rw [ht, List.length_singleton] at hlen
        obtain ⟨fuel'', rfl⟩ := Nat.exists_eq_add_of_le' (show 2 ≤ fuel'' by omega)
        exact enclosure_of_parenthesis parent hs ht
      · obtain ⟨fuel'', rfl⟩ := Nat.exists_eq_add_one_of_ne_zero (Nat.ne_zero_of_lt hfuel'')
        exact enclosure_of_nil parent hs ht
    | cons c r =>
      obtain ⟨fuel'', rfl⟩ := Nat.exists_eq_add_one_of_ne_zero (Nat.ne_zero_of_lt hfuel'')
      rw [hs] at hskip
      obtain ⟨u, ht, hu⟩ := hskip.shut.exists_cons
      rw [ht] at hskip
      refine enclosure_of_cons parent hs ht hu fun x y halike => ?_
      have hle := hskip.le
      have hle' := hskip.le'
      have hrest := halike.rests.le
      have hrest' := halike.rests.le'
      rw [List.length_cons] at hle hle'
      rw [halike.eq]
      exact ih halike.rests.shut (by omega) (by omega) (by omega)

end ImportWeb.Pattern.Reader
