import ImportWeb.Disk
import ImportWeb.Proofs.Path.Key

/-!
Locations as paths. The path of a location is absolute and clean, and the key of a location
below another one writes down the names between the two.
-/

namespace ImportWeb

open Text ImportWeb.Path

namespace Path

instance (text : List Char) : Decidable (IsName text) := inferInstanceAs (Decidable (_ ∧ _))

theorem foldl_normalStep_names (names : List (List Char)) (done : List Component) :
    (names.map Component.name).foldl normalStep done =
      (names.map Component.name).reverse ++ done := by
  induction names generalizing done with
  | nil => rfl
  | cons n rest ih =>
    have hstep : normalStep done (.name n) = .name n :: done := rfl
    rw [List.map_cons, List.foldl_cons, hstep, ih, List.reverse_cons, List.append_assoc,
      List.singleton_append]

/-- Names behind the root are in normal form. -/
theorem normalize_names (names : List (List Char)) :
    normalize (.root :: names.map .name) = .root :: names.map .name := by
  have hstep : normalStep [] .root = [.root] := rfl
  rw [normalize, List.foldl_cons, hstep, foldl_normalStep_names, List.reverse_append,
    List.reverse_reverse]
  rfl

end Path

namespace Location

variable {l below : Location}

theorem toPath_eq (l : Location) : l.toPath = ofComponents (.root :: l.map .name) := by
  rw [toPath, ofComponents, List.map_map]
  exact congrArg (fun names => Path.mk ('/' :: joinWith ['/'] names)) (List.map_id l).symm

theorem components_toPath (h : ∀ n ∈ l, IsName n) : l.toPath.components = .root :: l.map .name := by
  rw [toPath_eq]
  refine components_ofComponents_root fun c hc => ?_
  obtain ⟨n, hn, rfl⟩ := List.mem_map.1 hc
  exact h n hn

theorem clean_toPath (h : ∀ n ∈ l, IsName n) : l.toPath.clean = l.toPath := by
  rw [clean, components_toPath h, normalize_names, toPath_eq]

theorem isAbsolute_toPath (l : Location) : l.toPath.isAbsolute = true := by
  have hsplit : splitAtChar '/' l.toPath.chars = [] :: splitAtChar '/' (joinWith ['/'] l) :=
    splitAtChar_cons_self '/' _
  obtain ⟨piece, rest, hpieces⟩ :=
    List.exists_cons_of_ne_nil (splitAtChar_ne_nil '/' (joinWith ['/'] l))
  rw [isAbsolute, anchor, hsplit, hpieces]
  rfl

theorem toPath_inj {m : Location} (hl : ∀ n ∈ l, IsName n) (hm : ∀ n ∈ m, IsName n)
    (h : l.toPath = m.toPath) : l = m := by
  have hcomp := components_toPath hl
  rw [h, components_toPath hm, List.cons.injEq] at hcomp
  exact (List.map_injective_iff.2 (fun _ _ => Component.name.inj) hcomp.2).symm

/-- A clean path from the root is that of a location. -/
theorem exists_toPath {p : Path} (hp : p.isAbsolute = true) (hclean : p.clean = p) :
    ∃ l : Location, (∀ n ∈ l, IsName n) ∧ p = l.toPath := by
  obtain ⟨l, hl, hcomponents⟩ := exists_names hp hclean
  refine ⟨l, hl, ?_⟩
  rw [toPath_eq, ← hcomponents, ← hclean, ofComponents_components_clean]

/-- The key of a location below another one. -/
theorem ofPath?_toPath (hl : ∀ n ∈ l, IsName n) (hb : ∀ n ∈ below, IsName n) (hne : below ≠ []) :
    Key.ofPath? l.toPath (l ++ below).toPath = some (String.ofList (joinWith ['/'] below)) := by
  have hall : ∀ n ∈ l ++ below, IsName n := fun n hn => (List.mem_append.1 hn).elim (hl n) (hb n)
  refine Key.ofPath?_eq_some_iff.2 ⟨below, hne, ?_, rfl⟩
  rw [components_toPath hl, components_toPath hall, List.map_append, List.cons_append]

theorem isBelow_toPath (hl : ∀ n ∈ l, IsName n) (hb : ∀ n ∈ below, IsName n) (hne : below ≠ []) :
    IsBelow l.toPath (l ++ below).toPath := by
  have hall : ∀ n ∈ l ++ below, IsName n := fun n hn => (List.mem_append.1 hn).elim (hl n) (hb n)
  rw [IsBelow, components_toPath hl, components_toPath hall, List.map_append, ← List.cons_append]
  refine ⟨List.prefix_append .., ?_⟩
  simpa using hne

end Location

end ImportWeb
