import ImportWeb.Graph
import ImportWeb.Proofs.Path.Clean
import ImportWeb.Proofs.Path.Raw

/-!
The key of a file below a root. It is there exactly for the paths that lead from the root
through names, and writes these names down so that they can be read back: below one root a
clean path is determined by its key, and pushing the key onto the root gives the path.
-/

namespace ImportWeb

open Text ImportWeb.Path

/-- Names joined by slashes can be told apart. -/
theorem joinWith_names_inj {ms ns : List (List Char)} (hm : ms ≠ []) (hn : ns ≠ [])
    (hms : ∀ m ∈ ms, IsName m) (hns : ∀ n ∈ ns, IsName n)
    (h : joinWith ['/'] ms = joinWith ['/'] ns) : ms = ns := by
  rw [← splitAtChar_joinWith hm fun m hmem => (hms m hmem).1, h,
    splitAtChar_joinWith hn fun n hmem => (hns n hmem).1]

namespace Path

/-- Whether `p` lies strictly below `root`. -/
def IsBelow (root p : Path) : Prop :=
  root.components <+: p.components ∧ root.components ≠ p.components

instance (root p : Path) : Decidable (IsBelow root p) := inferInstanceAs (Decidable (_ ∧ _))

/-- The last character of a path other than the root is no slash. -/
theorem getLast?_joinWith_pieces {pieces : List (List Char)} (hne : pieces ≠ [])
    (h : ∀ n ∈ pieces, IsPiece n) :
    ∃ c, (joinWith ['/'] pieces).getLast? = some c ∧ c ≠ '/' := by
  induction pieces with
  | nil => exact absurd rfl hne
  | cons n rest ih =>
    obtain ⟨hn, hrest⟩ := List.forall_mem_cons.1 h
    cases rest with
    | nil =>
      refine ⟨n.getLast hn.2, List.getLast?_eq_some_getLast hn.2, fun he => ?_⟩
      exact hn.1 (he ▸ List.getLast_mem hn.2)
    | cons next more =>
      obtain ⟨c, hc, hslash⟩ := ih (by simp) hrest
      refine ⟨c, ?_, hslash⟩
      rw [joinWith, List.append_assoc, List.getLast?_append, List.getLast?_append, hc]
      · rfl
      · simp

theorem head?_joinWith_names {names : List (List Char)} (hne : names ≠ [])
    (h : ∀ n ∈ names, IsName n) : (joinWith ['/'] names).head? ≠ some '/' := by
  obtain ⟨n, rest, rfl⟩ := List.exists_cons_of_ne_nil hne
  obtain ⟨hn, -⟩ := List.forall_mem_cons.1 h
  obtain ⟨c, more, rfl⟩ := List.exists_cons_of_ne_nil hn.ne_nil
  have hc : c ≠ '/' := fun he => hn.1 (he ▸ List.mem_cons_self)
  cases rest <;> simp [joinWith, hc]

/-- Pushing names onto a clean path from the root. -/
theorem push_joinWith_names {above names : List (List Char)} (hne : names ≠ [])
    (ha : ∀ n ∈ above, IsName n) (hn : ∀ n ∈ names, IsName n) :
    (ofComponents (.root :: above.map .name)).push (joinWith ['/'] names) =
      ofComponents (.root :: (above ++ names).map .name) := by
  have htext : ∀ l : List (List Char), (l.map Component.name).map Component.text = l := fun l => by
    rw [List.map_map]
    exact List.map_id l
  simp only [ofComponents, push, head?_joinWith_names hne hn, if_false, htext]
  by_cases habove : above = []
  · subst habove
    simp [joinWith]
  · obtain ⟨c, hc, hslash⟩ := getLast?_joinWith_pieces habove fun n hn => (ha n hn).isPiece
    rw [List.getLast?_cons, hc, joinWith_append _ habove hne]
    simp [hslash]

end Path

namespace Key

/-- A path has a key when names, and only names, lead to it from the root. -/
theorem ofPath?_eq_some_iff_raw {P : Type} [FilePath P] {root p : P} {k : String} :
    ofPath? root p = some k ↔ ∃ names : List (List UInt8), names ≠ [] ∧
      (FilePath.raw p).components = (FilePath.raw root).components ++ names.map .name ∧
      k = String.ofList (joinWith ['/'] (names.map decode)) := by
  unfold ofPath?
  simp only [Option.bind_eq_bind, Option.bind_eq_some_iff, RawPath.below?_eq_some_iff,
    Component.mapM_name?_eq_some_iff]
  constructor
  · rintro ⟨_, hp, names, rfl, hk⟩
    split at hk
    · simp at hk
    · rename_i hne
      exact ⟨names, by simpa using hne, hp, (Option.some.inj hk).symm⟩
  · rintro ⟨names, hne, hp, rfl⟩
    exact ⟨_, hp, names, rfl, by simp [hne]⟩

/-- The names of a text are read back, so its key is made of the names as they are written. -/
theorem ofPath?_eq_some_iff {root p : Path} {k : String} :
    ofPath? root p = some k ↔ ∃ names : List (List Char), names ≠ [] ∧
      p.components = root.components ++ names.map .name ∧
      k = String.ofList (joinWith ['/'] names) := by
  have hread : ∀ names : List (List Char), (names.map utf8).map decode = names := by
    intro names
    rw [List.map_map, Function.LeftInverse.comp_eq_id decode_utf8, List.map_id]
  rw [ofPath?_eq_some_iff_raw]
  constructor
  · rintro ⟨_, hne, hp, rfl⟩
    obtain ⟨names, hnames, rfl⟩ := RawPath.components_raw_eq_append_iff.1 hp
    exact ⟨names, by simpa using hne, hnames, by rw [hread]⟩
  · rintro ⟨names, hne, hp, rfl⟩
    exact ⟨names.map utf8, by simpa using hne, RawPath.components_raw_eq_append_iff.2 ⟨_, hp, rfl⟩,
      by rw [hread]⟩

theorem isName_of_components {root p : Path} {names : List (List Char)}
    (h : p.components = root.components ++ names.map .name) : ∀ n ∈ names, IsName n := by
  intro n hn
  refine isName_of_mem_components (p := p) ?_
  rw [h]
  exact List.mem_append_right _ (List.mem_map_of_mem hn)

/-- Paths of one key have the same components. -/
theorem components_eq_of_ofPath? {root p q : Path} {k : String} (hp : ofPath? root p = some k)
    (hq : ofPath? root q = some k) : p.components = q.components := by
  obtain ⟨ms, hms, hpm, hk⟩ := ofPath?_eq_some_iff.1 hp
  obtain ⟨ns, hns, hqn, hl⟩ := ofPath?_eq_some_iff.1 hq
  have hjoin : joinWith ['/'] ms = joinWith ['/'] ns := String.ofList_injective (hk.symm.trans hl)
  rw [hpm, hqn, joinWith_names_inj hms hns (isName_of_components hpm)
    (isName_of_components hqn) hjoin]

/-- Below one root a clean path is determined by its key. -/
theorem clean_eq_of_ofPath? {root p q : Path} {k : String}
    (hp : ofPath? root p.clean = some k) (hq : ofPath? root q.clean = some k) :
    p.clean = q.clean := clean_inj (components_eq_of_ofPath? hp hq)

/-- A clean path strictly below a clean root has a key, which leads to it from the root. -/
theorem exists_ofPath? {root p : Path} (hr : root.isAbsolute = true) (hrc : root.clean = root)
    (hp : p.isAbsolute = true) (hpc : p.clean = p) (hb : root.IsBelow p) :
    ∃ k, ofPath? root p = some k ∧ root.push k.toList = p := by
  obtain ⟨above, habove, hroot⟩ := exists_names hr hrc
  obtain ⟨all, hall, hpath⟩ := exists_names hp hpc
  obtain ⟨rest, hrest⟩ := hb.1
  have hpieces : above.map Component.name ++ rest = all.map Component.name := by
    rw [hroot, hpath, List.cons_append] at hrest
    exact (List.cons.inj hrest).2
  obtain ⟨above', names, rfl, habove', rfl⟩ := List.map_eq_append_iff.1 hpieces.symm
  obtain rfl : above' = above := List.map_injective_iff.2 (fun _ _ => Component.name.inj) habove'
  have hne : names ≠ [] := by
    rintro rfl
    exact hb.2 (by rw [hroot, hpath, List.append_nil])
  have hnames : ∀ n ∈ names, IsName n := fun n hn => hall n (List.mem_append_right _ hn)
  refine ⟨_, ofPath?_eq_some_iff.2 ⟨names, hne, hrest.symm, rfl⟩, ?_⟩
  rw [String.toList_ofList, ← hrc, ← ofComponents_components_clean root, hrc, hroot,
    push_joinWith_names hne habove hnames, ← hpath, ← hpc, ofComponents_components_clean]

end Key

end ImportWeb
