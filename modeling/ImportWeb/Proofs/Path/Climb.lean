import ImportWeb.Proofs.Path.Location

/-!
Ways up and down from a location. Each step up takes the last name away, each piece that is
pushed comes to the end, and cleaning the path of any pieces behind the root walks along them:
a name goes down, two dots go up, and nothing else moves.
-/

namespace ImportWeb

open Text ImportWeb.Path

namespace Path

/-- One piece further on a way from the root. -/
def climb (here : Location) (piece : List Char) : Location :=
  if piece = [] ∨ piece = ['.'] then here
  else if piece = ['.', '.'] then here.dropLast
  else here ++ [piece]

/-- The path behind the root to which the given texts lead one after the other, in lexical normal
form. Slashes within a text separate its pieces. -/
def along (texts : List (List Char)) : Path :=
  Location.toPath ((texts.flatMap (splitAtChar '/')).foldl climb [])

theorem meaningful_names {names : List (List Char)} (h : ∀ n ∈ names, IsName n) :
    meaningful names = names := by
  rcases names.eq_nil_or_concat with rfl | ⟨init, n, rfl⟩
  · rfl
  · have hn : (component? '.' n).isNone = false := by
      rw [(h n (by simp)).2, Option.isNone_some]
    rw [meaningful, List.concat_eq_append, List.reverse_concat,
      List.dropWhile_cons_of_neg (by simp [hn]), ← List.reverse_concat, List.reverse_reverse]

/-- One component more and one piece more come to the same. -/
theorem normalStep_component? (here : Location) (piece : List Char) :
    ((component? '.' piece).toList.foldl normalStep
        ((here.map Component.name).reverse ++ [.root])) =
      ((climb here piece).map Component.name).reverse ++ [.root] := by
  by_cases hstay : piece = [] ∨ piece = ['.']
  · rcases hstay with rfl | rfl <;> simp [climb, component?]
  · obtain ⟨hnil, hdot⟩ := not_or.1 hstay
    by_cases hup : piece = ['.', '.']
    · subst hup
      rcases here.eq_nil_or_concat with rfl | ⟨above, n, rfl⟩
      · simp [climb, component?, normalStep]
      · simp [climb, component?, normalStep]
    · simp [climb, component?, normalStep, hnil, hdot, hup]

theorem foldl_normalStep_pieces (pieces : List (List Char)) (here : Location) :
    (pieces.filterMap (component? '.')).foldl normalStep
        ((here.map Component.name).reverse ++ [.root]) =
      ((pieces.foldl climb here).map Component.name).reverse ++ [.root] := by
  induction pieces generalizing here with
  | nil => rfl
  | cons piece rest ih =>
    have hfirst : (piece :: rest).filterMap (component? '.') =
        (component? '.' piece).toList ++ rest.filterMap (component? '.') := by
      rw [List.filterMap_cons]
      cases component? '.' piece <;> rfl
    rw [hfirst, List.foldl_append, normalStep_component?, ih, List.foldl_cons]

end Path

namespace Location

variable {l : Location}

theorem anchor_toPath (l : Location) : l.toPath.anchor = .root :=
  of_decide_eq_true (isAbsolute_toPath l)

theorem ofPath_toPath (h : ∀ n ∈ l, IsName n) : ofPath l.toPath = l := by
  have hname : ∀ n : List Char, Component.name? (.name n) = some n := fun n => rfl
  rw [ofPath, components_toPath h, List.filterMap_cons_none rfl, List.filterMap_map]
  exact (List.filterMap_congr fun n _ => hname n).trans List.filterMap_some

theorem pieces_toPath (hne : l ≠ []) (h : ∀ n ∈ l, IsName n) : l.toPath.pieces = l := by
  rw [pieces, anchor_toPath, toPath, splitAtChar_cons_self, Anchor.behind, List.tail_cons,
    splitAtChar_joinWith hne fun n hn => (h n hn).1]

theorem parent?_toPath_nil : (toPath []).parent? = none := by decide

theorem parent?_toPath_concat {n : List Char} (h : ∀ m ∈ l ++ [n], IsName m) :
    (toPath (l ++ [n])).parent? = some l.toPath := by
  have hl : ∀ m ∈ l, IsName m := fun m hm => h m (List.mem_append_left _ hm)
  have hmeaning : meaningful (toPath (l ++ [n])).pieces = l ++ [n] := by
    rw [pieces_toPath (by simp) h, meaningful_names h]
  rw [parent?, hmeaning, anchor_toPath]
  split
  case h_1 heq => simp at heq
  case h_2 heq => rw [List.dropLast_concat, meaningful_names hl, Anchor.join, toPath]

/-- Steps up take names away from the end, and there is no step up from the root. -/
theorem ancestor?_toPath (h : ∀ n ∈ l, IsName n) (k : Nat) :
    l.toPath.ancestor? k =
      if k ≤ l.length then some (toPath (l.take (l.length - k))) else none := by
  induction k generalizing l with
  | zero => simp [ancestor?]
  | succ k ih =>
    rw [ancestor?]
    rcases l.eq_nil_or_concat with rfl | ⟨above, n, rfl⟩
    · rw [parent?_toPath_nil]
      simp
    · rw [List.concat_eq_append] at h ⊢
      rw [parent?_toPath_concat h]
      simp only [Option.bind_eq_bind, Option.bind_some]
      rw [ih fun m hm => h m (List.mem_append_left _ hm)]
      simp only [List.length_append, List.length_singleton, Nat.add_le_add_iff_right,
        Nat.add_sub_add_right]
      rw [List.take_append_of_le_length (Nat.sub_le _ _)]

theorem ancestor?_toPath_eq_some {k : Nat} {above : Path} (h : ∀ n ∈ l, IsName n)
    (habove : l.toPath.ancestor? k = some above) :
    k ≤ l.length ∧ above = toPath (l.take (l.length - k)) := by
  rw [ancestor?_toPath h] at habove
  split at habove
  case isTrue hle => exact ⟨hle, (Option.some.inj habove).symm⟩
  case isFalse => cases habove

/-- A piece that is pushed comes to the end. -/
theorem push_toPath {piece : List Char} (h : ∀ n ∈ l, IsPiece n) (hp : IsPiece piece) :
    l.toPath.push piece = toPath (l ++ [piece]) := by
  obtain ⟨c, more, rfl⟩ := List.exists_cons_of_ne_nil hp.2
  have hc : c ≠ '/' := fun he => hp.1 (he ▸ List.mem_cons_self)
  rw [push, List.head?_cons, if_neg (by simpa using hc)]
  by_cases hne : l = []
  · subst hne
    simp [toPath, joinWith]
  · obtain ⟨d, hd, hslash⟩ := getLast?_joinWith_pieces hne h
    simp [toPath, List.getLast?_cons, hd, hslash, joinWith_append _ hne (List.cons_ne_nil _ _),
      joinWith]

theorem foldl_push_toPath {pieces : List (List Char)} (h : ∀ n ∈ l, IsPiece n)
    (hp : ∀ p ∈ pieces, IsPiece p) : pieces.foldl push l.toPath = toPath (l ++ pieces) := by
  induction pieces generalizing l with
  | nil => rw [List.foldl_nil, List.append_nil]
  | cons piece rest ih =>
    obtain ⟨hpiece, hrest⟩ := List.forall_mem_cons.1 hp
    have hl : ∀ n ∈ l ++ [piece], IsPiece n := by
      intro n hn
      rcases List.mem_append.1 hn with hn | hn
      · exact h n hn
      · rw [List.mem_singleton.1 hn]
        exact hpiece
    rw [List.foldl_cons, push_toPath h hpiece, ih hl hrest, List.append_assoc,
      List.singleton_append]

/-- Characters that are appended to a path belong to its last piece. -/
theorem append_toPath (l : Location) (piece suffix : List Char) :
    (toPath (l ++ [piece])).append suffix = toPath (l ++ [piece ++ suffix]) := by
  by_cases hne : l = []
  · subst hne
    rfl
  · simp [append, toPath, joinWith_append _ hne (List.cons_ne_nil _ _), joinWith]

/-- Texts behind the root have the normal form to which they lead. -/
theorem clean_toPath_eq_along (texts : List (List Char)) :
    (toPath texts).clean = along texts := by
  by_cases hne : texts = []
  · subst hne
    decide
  have hsplit : splitAtChar '/' (toPath texts).chars = [] :: texts.flatMap (splitAtChar '/') := by
    rw [toPath, splitAtChar_cons_self, splitAtChar_joinWith_texts '/' hne]
  have hpieces : texts.flatMap (splitAtChar '/') ≠ [] := by
    obtain ⟨text, rest, rfl⟩ := List.exists_cons_of_ne_nil hne
    simp [splitAtChar_ne_nil]
  have hstart : normalStep [] .root = [.root] := rfl
  have hnormal : Path.normalize (toPath texts).components =
      .root :: ((texts.flatMap (splitAtChar '/')).foldl climb []).map Component.name := by
    have hwalk := foldl_normalStep_pieces (texts.flatMap (splitAtChar '/')) []
    rw [components_of_root hpieces hsplit, Path.normalize, List.foldl_cons, hstart]
    rw [List.map_nil, List.reverse_nil, List.nil_append] at hwalk
    rw [hwalk, List.reverse_append, List.reverse_reverse, List.reverse_singleton,
      List.singleton_append]
  rw [clean, hnormal, along, toPath_eq]

end Location

end ImportWeb
