import Mathlib.Data.List.Basic
import ImportWeb.Path

/-!
Clean paths. Cleaning rewrites a path from its components, and the components of the result are
the normalized ones, so a clean path is determined by its components. Behind the root a
normalized path holds names only.
-/

namespace ImportWeb.Path

open Text

/-! ### Pieces and components -/

/-- A text that stands for a name in a path. -/
def IsName (text : List Char) : Prop := '/' ∉ text ∧ component? '.' text = some (.name text)

/-- A component that is written as one piece of a path: a name or a step up. -/
def IsStep : Component → Prop
  | .name text => IsName text
  | .up => True
  | _ => False

theorem IsName.ne_nil {text : List Char} (h : IsName text) : text ≠ [] := by
  rintro rfl
  exact absurd h.2 (by decide)

/-- A text that can be pushed onto a path as one piece of it. -/
def IsPiece (text : List Char) : Prop := '/' ∉ text ∧ text ≠ []

theorem IsName.isPiece {text : List Char} (h : IsName text) : IsPiece text := ⟨h.1, h.ne_nil⟩

theorem not_mem_text {c : Component} (h : IsStep c) : '/' ∉ c.text := by
  cases c with
  | name text => exact h.1
  | up => decide
  | root => exact h.elim
  | here => exact h.elim

theorem component?_text {c : Component} (h : IsStep c) : component? '.' c.text = some c := by
  cases c with
  | name text => exact h.2
  | up => rfl
  | root => exact h.elim
  | here => exact h.elim

theorem text_ne {c : Component} (h : IsStep c) : c.text ≠ [] ∧ c.text ≠ ['.'] := by
  have hc := component?_text h
  constructor
  · intro he
    rw [he] at hc
    exact absurd hc (by simp [component?])
  · intro he
    rw [he] at hc
    exact absurd hc (by simp [component?])

theorem isStep_of_component? {piece : List Char} {c : Component} (hp : '/' ∉ piece)
    (h : component? '.' piece = some c) : IsStep c := by
  unfold component? at h
  split at h
  · simp at h
  split at h
  · simp at h
  split at h
  · obtain rfl := Option.some.inj h
    trivial
  · obtain rfl := Option.some.inj h
    refine ⟨hp, ?_⟩
    simp_all [component?]

theorem isStep_of_mem_pieces {p : Path} {c : Component}
    (h : c ∈ p.pieces.filterMap (component? '.')) : IsStep c := by
  obtain ⟨piece, hpiece, hc⟩ := List.mem_filterMap.1 h
  exact isStep_of_component?
    (not_mem_of_mem_splitAtChar (s := p.chars) (Anchor.mem_of_mem_behind hpiece)) hc

theorem filterMap_component?_text {steps : List Component} (h : ∀ c ∈ steps, IsStep c) :
    (steps.map Component.text).filterMap (component? '.') = steps := by
  induction steps with
  | nil => rfl
  | cons c rest ih =>
    obtain ⟨hc, hrest⟩ := List.forall_mem_cons.1 h
    rw [List.map_cons, List.filterMap_cons_some (component?_text hc), ih hrest]

theorem splitAtChar_joinWith_text {steps : List Component} (hne : steps ≠ [])
    (h : ∀ c ∈ steps, IsStep c) :
    splitAtChar '/' (joinWith ['/'] (steps.map Component.text)) = steps.map Component.text := by
  refine splitAtChar_joinWith (by simpa using hne) fun piece hpiece => ?_
  obtain ⟨c, hc, rfl⟩ := List.mem_map.1 hpiece
  exact not_mem_text (h c hc)

/-! ### Writing components down -/

theorem components_of_root {pieces : List (List Char)} {p : Path} (hne : pieces ≠ [])
    (h : splitAtChar '/' p.chars = [] :: pieces) :
    p.components = .root :: pieces.filterMap (component? '.') := by
  obtain ⟨piece, rest, rfl⟩ := List.exists_cons_of_ne_nil hne
  have hanchor : p.anchor = .root := by rw [anchor, h, Anchor.ofPieces_root]
  rw [components, Path.pieces, hanchor, h]
  rfl

/-- The components behind the root are read back as they were written. -/
theorem components_ofComponents_root {steps : List Component} (h : ∀ c ∈ steps, IsStep c) :
    (ofComponents (.root :: steps)).components = .root :: steps := by
  by_cases hne : steps = []
  · subst hne
    rfl
  · have hsplit : splitAtChar '/' (ofComponents (.root :: steps)).chars =
        [] :: steps.map Component.text := by
      rw [ofComponents, splitAtChar_cons_self, splitAtChar_joinWith_text hne h]
    rw [components_of_root (by simpa using hne) hsplit, filterMap_component?_text h]

theorem components_ofComponents_steps {steps : List Component} (hne : steps ≠ [])
    (h : ∀ c ∈ steps, IsStep c) : (ofComponents steps).components = steps := by
  obtain ⟨c, rest, rfl⟩ := List.exists_cons_of_ne_nil hne
  obtain ⟨hc, -⟩ := List.forall_mem_cons.1 h
  have hchars : (ofComponents (c :: rest)).chars =
      joinWith ['/'] ((c :: rest).map Component.text) := by
    cases c with
    | root => exact hc.elim
    | _ => rfl
  have hsplit := splitAtChar_joinWith_text hne h
  rw [← hchars] at hsplit
  have hanchor : (ofComponents (c :: rest)).anchor = .nothing := by
    rw [anchor, hsplit, List.map_cons]
    exact Anchor.ofPieces_nothing (text_ne hc).1 (text_ne hc).2 _
  rw [components, pieces, hanchor, hsplit, Anchor.behind, filterMap_component?_text h]
  rfl

/-! ### Normalizing -/

theorem foldl_normalStep_root (steps : List Component) (h : ∀ c ∈ steps, IsStep c)
    (names : List (List Char)) (hn : ∀ n ∈ names, IsName n) :
    ∃ names' : List (List Char), (∀ n ∈ names', IsName n) ∧
      steps.foldl normalStep (names.map Component.name ++ [.root]) =
        names'.map Component.name ++ [.root] := by
  induction steps generalizing names with
  | nil => exact ⟨names, hn, rfl⟩
  | cons c rest ih =>
    obtain ⟨hc, hrest⟩ := List.forall_mem_cons.1 h
    rw [List.foldl_cons]
    cases c with
    | root => exact hc.elim
    | here => exact hc.elim
    | name text => exact ih hrest (text :: names) (List.forall_mem_cons.2 ⟨hc, hn⟩)
    | up =>
      cases names with
      | nil => exact ih hrest [] hn
      | cons n more => exact ih hrest more (List.forall_mem_cons.1 hn).2

theorem foldl_normalStep_steps (cs done : List Component)
    (h : ∀ c ∈ cs, c = .here ∨ IsStep c) (hd : ∀ c ∈ done, IsStep c) :
    ∀ c ∈ cs.foldl normalStep done, IsStep c := by
  induction cs generalizing done with
  | nil => exact hd
  | cons c rest ih =>
    obtain ⟨hc, hrest⟩ := List.forall_mem_cons.1 h
    refine ih _ hrest ?_
    rcases hc with rfl | hc
    · exact hd
    cases c with
    | root => exact hc.elim
    | here => exact hc.elim
    | name text => exact List.forall_mem_cons.2 ⟨hc, hd⟩
    | up =>
      cases done with
      | nil => exact List.forall_mem_cons.2 ⟨hc, hd⟩
      | cons d more =>
        obtain ⟨hd', hmore⟩ := List.forall_mem_cons.1 hd
        cases d with
        | root => exact hd'.elim
        | here => exact hd'.elim
        | up => exact List.forall_mem_cons.2 ⟨hc, hd⟩
        | name text => exact hmore

/-- Behind the root a normalized path has names only. -/
theorem normalize_root {steps : List Component} (h : ∀ c ∈ steps, IsStep c) :
    ∃ names : List (List Char), (∀ n ∈ names, IsName n) ∧
      normalize (.root :: steps) = .root :: names.map Component.name := by
  obtain ⟨names, hnames, heq⟩ := foldl_normalStep_root steps h [] (by simp)
  refine ⟨names.reverse, by simpa using hnames, ?_⟩
  have hfold : (Component.root :: steps).foldl normalStep [] =
      names.map Component.name ++ [.root] := heq
  rw [normalize, hfold, List.reverse_concat, List.map_reverse]

/-! ### Clean paths -/

/-- The components of a path that starts at the root, or those of any other path. -/
theorem components_cases (p : Path) :
    (∃ steps, (∀ c ∈ steps, IsStep c) ∧ p.components = .root :: steps) ∨
      ∀ c ∈ p.components, c = .here ∨ IsStep c := by
  unfold components
  cases p.anchor with
  | root => exact .inl ⟨_, fun c hc => isStep_of_mem_pieces hc, rfl⟩
  | here =>
    refine .inr fun c hc => ?_
    rcases List.mem_cons.1 hc with rfl | hc
    · exact .inl rfl
    · exact .inr (isStep_of_mem_pieces hc)
  | nothing => exact .inr fun c hc => .inr (isStep_of_mem_pieces hc)

theorem isName_of_mem_components {p : Path} {n : List Char} (h : .name n ∈ p.components) :
    IsName n := by
  rcases components_cases p with ⟨steps, hsteps, heq⟩ | hsteps
  · rw [heq, List.mem_cons] at h
    rcases h with h | h
    · cases h
    · exact hsteps _ h
  · rcases hsteps _ h with h | h
    · cases h
    · exact h

/-- A clean path is what its components say. -/
theorem ofComponents_components_clean (p : Path) : ofComponents p.clean.components = p.clean := by
  have hrest : ∀ cs, normalize p.components = cs → cs ≠ [] → (ofComponents cs).components = cs →
      ofComponents p.clean.components = p.clean := by
    intro cs hcs hne hread
    have hclean : p.clean = ofComponents cs := by
      rw [clean, hcs]
      cases cs with
      | nil => exact absurd rfl hne
      | cons c rest => rfl
    rw [hclean, hread]
  rcases components_cases p with ⟨steps, hsteps, heq⟩ | hsteps
  · obtain ⟨names, hnames, hnorm⟩ := normalize_root hsteps
    refine hrest _ (heq ▸ hnorm) (by simp) (components_ofComponents_root fun c hc => ?_)
    obtain ⟨n, hn, rfl⟩ := List.mem_map.1 hc
    exact hnames n hn
  · by_cases hnil : normalize p.components = []
    · rw [clean, hnil]
      rfl
    · refine hrest _ rfl hnil (components_ofComponents_steps hnil fun c hc => ?_)
      exact foldl_normalStep_steps _ [] hsteps (by simp) c (List.mem_reverse.1 hc)

/-- Two clean paths with the same components are the same. -/
theorem clean_inj {p q : Path} (h : p.clean.components = q.clean.components) :
    p.clean = q.clean := by
  rw [← ofComponents_components_clean p, h, ofComponents_components_clean]

/-- A clean path from the root consists of names. -/
theorem exists_names {p : Path} (hp : p.isAbsolute = true) (hclean : p.clean = p) :
    ∃ names : List (List Char), (∀ n ∈ names, IsName n) ∧
      p.components = .root :: names.map Component.name := by
  have hroot : p.anchor = .root := of_decide_eq_true hp
  have hcomp : p.components = .root :: p.pieces.filterMap (component? '.') := by
    rw [components, hroot]
    rfl
  have hsteps : ∀ c ∈ p.pieces.filterMap (component? '.'), IsStep c := fun c => isStep_of_mem_pieces
  obtain ⟨names, hnames, hnorm⟩ := normalize_root hsteps
  refine ⟨names, hnames, ?_⟩
  rw [← hclean, clean, hcomp, hnorm]
  refine components_ofComponents_root fun c hc => ?_
  obtain ⟨n, hn, rfl⟩ := List.mem_map.1 hc
  exact hnames n hn

end ImportWeb.Path
