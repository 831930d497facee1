import ImportWeb.Proofs.Path.Key

/-!
A key and its root tell a path. Whatever the root looks like, with dots, doubled slashes or a slash
at its end, pushing the key onto it gives the components of the path back; there is no key just
where the root does not lead to the path through names.
-/

namespace ImportWeb

open Text ImportWeb.Path

namespace Path

/-- What the first piece of a path stands for if it is not the only one or not empty. -/
def leading (piece : List Char) : List Component :=
  if piece = [] then [.root] else if piece = ['.'] then [.here] else (component? '.' piece).toList

theorem leading_of_isName {n : List Char} (h : IsName n) : leading n = [.name n] := by
  have hdot : n ≠ ['.'] := by
    rintro rfl
    exact absurd h.2 (by decide)
  rw [leading, if_neg h.ne_nil, if_neg hdot, h.2, Option.toList_some]

/-- The components of a path, piece by piece. -/
theorem components_of_pieces {p : Path} {first : List Char} {rest : List (List Char)}
    (h : splitAtChar '/' p.chars = first :: rest) (hne : first ≠ [] ∨ rest ≠ []) :
    p.components = leading first ++ rest.filterMap (component? '.') := by
  by_cases hroot : first = []
  · subst hroot
    rw [components_of_root (hne.resolve_left (not_not_intro rfl)) h]
    rfl
  by_cases hhere : first = ['.']
  · have hanchor : p.anchor = .here := by
      rw [anchor, h, hhere]
      rfl
    rw [components, pieces, hanchor, h, leading, if_neg hroot, if_pos hhere]
    rfl
  · have hanchor : p.anchor = .nothing := by
      rw [anchor, h, Anchor.ofPieces_nothing hroot hhere]
    rw [components, pieces, hanchor, h, Anchor.behind, leading, if_neg hroot, if_neg hhere]
    cases hfirst : component? '.' first with
    | none => simp [Anchor.component?, hfirst]
    | some c => simp [Anchor.component?, hfirst]

/-- Names pushed onto any path are its further components. -/
theorem components_push_names (p : Path) {names : List (List Char)} (hne : names ≠ [])
    (hn : ∀ n ∈ names, IsName n) :
    (p.push (joinWith ['/'] names)).components = p.components ++ names.map .name := by
  obtain ⟨chars⟩ := p
  have hsplit : splitAtChar '/' (joinWith ['/'] names) = names :=
    splitAtChar_joinWith hne fun n hmem => (hn n hmem).1
  have hnames : ∀ l : List (List Char), (∀ n ∈ l, IsName n) →
      l.filterMap (component? '.') = l.map .name := by
    intro l hl
    rw [List.filterMap_congr fun n hmem => (hl n hmem).2, ← List.filterMap_eq_map']
  rw [push, if_neg (head?_joinWith_names hne hn)]
  obtain rfl | ⟨init, c, rfl⟩ := chars.eq_nil_or_concat'
  · -- nothing is before the names
    obtain ⟨n, more, rfl⟩ := List.exists_cons_of_ne_nil hne
    obtain ⟨hfirst, hmore⟩ := List.forall_mem_cons.1 hn
    change (Path.mk (joinWith ['/'] (n :: more))).components = _
    rw [components_of_pieces hsplit (.inl hfirst.ne_nil), leading_of_isName hfirst,
      hnames more hmore]
    rfl
  by_cases hc : c = '/'
  · -- the slash at the end is the one before the names
    subst hc
    obtain ⟨first, rest, hinit⟩ := List.exists_cons_of_ne_nil (splitAtChar_ne_nil '/' init)
    have hbefore : splitAtChar '/' (init ++ ['/']) = first :: (rest ++ [[]]) := by
      rw [splitAtChar_append_cons, hinit]
      rfl
    have hafter : splitAtChar '/' (init ++ '/' :: joinWith ['/'] names) =
        first :: (rest ++ names) := by
      rw [splitAtChar_append_cons, hinit, hsplit]
      rfl
    rw [if_pos (by simp), List.append_assoc, List.singleton_append,
      components_of_pieces hafter (.inr (by simp [hne])),
      components_of_pieces hbefore (.inr (by simp)), List.filterMap_append, List.filterMap_append,
      hnames names hn, List.append_assoc]
    simp [component?]
  · obtain ⟨first, rest, hchars⟩ :=
      List.exists_cons_of_ne_nil (splitAtChar_ne_nil '/' (init ++ [c]))
    have hsome : first ≠ [] ∨ rest ≠ [] := by
      by_contra hnone
      obtain ⟨rfl, rfl⟩ := by simpa only [not_or, not_not] using hnone
      have hempty := joinWith_splitAtChar '/' (init ++ [c])
      rw [hchars] at hempty
      simp [joinWith] at hempty
    have hafter : splitAtChar '/' ((init ++ [c]) ++ '/' :: joinWith ['/'] names) =
        first :: (rest ++ names) := by
      rw [splitAtChar_append_cons, hchars, hsplit]
      rfl
    rw [if_neg (by simpa using hc), components_of_pieces hafter (.inr (by simp [hne])),
      components_of_pieces hchars hsome, List.filterMap_append, hnames names hn, List.append_assoc]

end Path

namespace Key

variable {root p q : Path} {k : String}

/-- The key leads from the root to the path. -/
theorem components_push_of_ofPath? (h : ofPath? root p = some k) :
    (root.push k.toList).components = p.components := by
  obtain ⟨names, hne, hp, rfl⟩ := ofPath?_eq_some_iff.1 h
  rw [String.toList_ofList, components_push_names root hne (isName_of_components hp), hp]

/-- There is no key where the root is not above the path, or not through names. -/
theorem ofPath?_eq_none_iff :
    ofPath? root p = none ↔ ¬ root.components <+: p.components ∨ p.components = root.components ∨
      ∃ c ∈ p.components.drop root.components.length, c.name? = none := by
  constructor
  · intro hnone
    by_contra hsome
    rw [not_or, not_or, not_not] at hsome
    obtain ⟨⟨rest, hrest⟩, hne, hnames⟩ := hsome
    rw [← hrest, List.drop_left] at hnames
    have hall : ∃ names : List (List Char), rest = names.map .name := by
      refine ⟨rest.filterMap Component.name?, ?_⟩
      rw [List.map_filterMap]
      refine (List.filterMap_some.symm.trans (List.filterMap_congr fun c hc => ?_))
      cases hname : c.name? with
      | none => exact absurd ⟨c, hc, hname⟩ hnames
      | some n => cases c <;> simp_all [Component.name?]
    obtain ⟨names, rfl⟩ := hall
    have hsome : ofPath? root p = some (String.ofList (joinWith ['/'] names)) := by
      refine ofPath?_eq_some_iff.2 ⟨names, ?_, hrest.symm, rfl⟩
      rintro rfl
      exact hne (by simpa using hrest.symm)
    rw [hnone] at hsome
    cases hsome
  · intro h
    rw [Option.eq_none_iff_forall_ne_some]
    rintro k hk
    obtain ⟨names, hne, hp, -⟩ := ofPath?_eq_some_iff.1 hk
    rcases h with hpre | heq | ⟨c, hc, hname⟩
    · exact hpre (hp ▸ List.prefix_append ..)
    · rw [hp] at heq
      exact hne (by simpa using heq)
    · rw [hp, List.drop_left] at hc
      obtain ⟨n, -, rfl⟩ := List.mem_map.1 hc
      cases hname

/-- A key says what a path is below its root: there is none just for the paths that names do not
lead to, pushing it onto the root gives the path, and paths share it only if they are the same. -/
theorem ofPath?_faithful (root p : Path) :
    (ofPath? root p = none ↔ ¬ root.components <+: p.components ∨ p.components = root.components ∨
      ∃ c ∈ p.components.drop root.components.length, c.name? = none) ∧
    ∀ k, ofPath? root p = some k → (root.push k.toList).components = p.components ∧
      ∀ q, ofPath? root q = some k ↔ q.components = p.components := by
  refine ⟨ofPath?_eq_none_iff, fun k hk => ⟨components_push_of_ofPath? hk, fun q => ?_⟩⟩
  constructor
  · exact fun hq => components_eq_of_ofPath? hq hk
  · intro hq
    obtain ⟨names, hne, hp, hkey⟩ := ofPath?_eq_some_iff.1 hk
    exact ofPath?_eq_some_iff.2 ⟨names, hne, hq.trans hp, hkey⟩

/-- A root with a slash at its end, and a path with doubled slashes and dots. -/
theorem ofPath?_faithful_untidy :
    let root := Path.ofString "/p/./q//"
    let p := Path.ofString "//p/q/.//a b/c.py/."
    ofPath? root p = some "a b/c.py" ∧
      root.push "a b/c.py".toList = Path.ofString "/p/./q//a b/c.py" ∧
      (root.push "a b/c.py".toList).components = p.components ∧
      ofPath? root (Path.ofString "/p/q/a b/../c.py") = none := by
  intro root p
  have hkey : ofPath? root p = some "a b/c.py" := by decide
  have hfaithful := (ofPath?_faithful root p).2 _ hkey
  refine ⟨hkey, by decide, hfaithful.1, ?_⟩
  exact (ofPath?_faithful root _).1.2 (.inr (.inr ⟨.up, by decide, rfl⟩))

end Key

end ImportWeb
