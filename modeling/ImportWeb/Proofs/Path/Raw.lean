import Mathlib.Data.List.Basic
import ImportWeb.Proofs.Text.Utf8
import ImportWeb.RawPath

/-!
Texts as paths of bytes. Neither the slash nor the dot is part of a longer character, so the bytes
of a text have the components that the text has, name by name.
-/

namespace ImportWeb

open Text

namespace Component

variable {ν μ : Type}

def map (f : ν → μ) : Component ν → Component μ
  | root => .root
  | here => .here
  | up => .up
  | name text => .name (f text)

theorem map_injective {f : ν → μ} (hf : Function.Injective f) : Function.Injective (map f) := by
  intro c d h
  cases c <;> cases d <;> simp_all [map, hf.eq_iff]

theorem mapM_name?_eq_some_iff {cs : List (Component ν)} {names : List ν} :
    cs.mapM name? = some names ↔ cs = names.map .name := by
  induction cs generalizing names with
  | nil => cases names <;> simp
  | cons c rest ih =>
    rw [List.mapM_cons]
    cases c with
    | name text =>
      cases names with
      | nil => simp [name?, Option.bind_eq_some_iff]
      | cons n more => simp [name?, Option.bind_eq_some_iff, ih, and_comm]
    | _ => cases names <;> simp [name?]

theorem map_eq_names_iff {f : ν → μ} {cs : List (Component ν)} {names : List μ} :
    cs.map (map f) = names.map .name ↔
      ∃ texts : List ν, cs = texts.map .name ∧ names = texts.map f := by
  constructor
  · intro h
    induction cs generalizing names with
    | nil => exact ⟨[], rfl, by simpa using h.symm⟩
    | cons c rest ih =>
      cases names with
      | nil => simp at h
      | cons n more =>
        obtain ⟨hc, hrest⟩ := List.cons.inj h
        obtain ⟨texts, rfl, rfl⟩ := ih hrest
        cases c with
        | name text => exact ⟨text :: texts, rfl, by rw [List.map_cons, Component.name.inj hc]⟩
        | _ => cases hc
  · rintro ⟨texts, rfl, rfl⟩
    simp [Function.comp_def, map]

end Component

namespace RawPath

theorem below?_eq_some_iff {root p : RawPath} {rest : List (Component (List UInt8))} :
    root.below? p = some rest ↔ p.components = root.components ++ rest := by
  unfold below?
  constructor
  · intro h
    split at h
    case isTrue hpre =>
      obtain ⟨more, hmore⟩ := List.isPrefixOf_iff_prefix.1 hpre
      rw [← hmore, List.drop_left] at h
      rw [← hmore, Option.some.inj h]
    case isFalse => simp at h
  · intro h
    rw [h, if_pos (List.isPrefixOf_iff_prefix.2 (List.prefix_append ..)), List.drop_left]

/-! ### The components of a text -/

theorem utf8_eq_iff {piece piece' : List Char} {bytes : List UInt8} (h : utf8 piece' = bytes) :
    utf8 piece = bytes ↔ piece = piece' := by
  rw [← h, utf8_injective.eq_iff]

theorem component?_utf8 (piece : List Char) :
    Path.component? dot (utf8 piece) =
      (Path.component? '.' piece).map (Component.map utf8) := by
  have hnil : utf8 piece = [] ↔ piece = [] := utf8_eq_iff rfl
  have hdot : utf8 piece = [dot] ↔ piece = ['.'] := utf8_eq_iff rfl
  have hup : utf8 piece = [dot, dot] ↔ piece = ['.', '.'] := utf8_eq_iff rfl
  simp only [Path.component?, hnil, hdot, hup]
  repeat' split
  all_goals rfl

theorem ofPieces_utf8 (pieces : List (List Char)) :
    Path.Anchor.ofPieces dot (pieces.map utf8) = Path.Anchor.ofPieces '.' pieces := by
  match pieces with
  | [] => rfl
  | [[]] => rfl
  | [] :: _ :: _ => rfl
  | (c :: more) :: rest =>
    have hnil : utf8 (c :: more) ≠ [] := fun h => List.cons_ne_nil c more ((utf8_eq_iff rfl).1 h)
    by_cases hdot : c :: more = ['.']
    · rw [hdot]
      exact Path.Anchor.ofPieces_here dot _
    · have hbytes : utf8 (c :: more) ≠ [dot] := (utf8_eq_iff rfl).not.2 hdot
      rw [List.map_cons, Path.Anchor.ofPieces_nothing hnil hbytes,
        Path.Anchor.ofPieces_nothing (List.cons_ne_nil c more) hdot]

/-- The bytes of a text have its components. -/
theorem components_raw (p : Path) :
    (FilePath.raw p).components = p.components.map (Component.map utf8) := by
  have hslash : '/'.toNat < 0x80 := by decide
  have hsplit : splitAtChar slash (utf8 p.chars) = (splitAtChar '/' p.chars).map utf8 :=
    splitAtChar_utf8 hslash p.chars
  have hanchor : (FilePath.raw p).anchor = p.anchor := by
    rw [anchor, FilePath.raw, instFilePathPath, hsplit, ofPieces_utf8, Path.anchor]
  have hpieces : (FilePath.raw p).pieces = p.pieces.map utf8 := by
    rw [pieces, hanchor, FilePath.raw, instFilePathPath, hsplit, Path.pieces]
    cases p.anchor <;> simp [Path.Anchor.behind]
  rw [components, hanchor, hpieces, Path.components, List.map_append, List.filterMap_map,
    List.map_filterMap]
  congr 1
  · cases p.anchor <;> rfl
  · exact List.filterMap_congr fun piece _ => component?_utf8 piece

theorem components_raw_eq_append_iff {root p : Path} {names : List (List UInt8)} :
    (FilePath.raw p).components = (FilePath.raw root).components ++ names.map .name ↔
      ∃ texts : List (List Char), p.components = root.components ++ texts.map .name ∧
        names = texts.map utf8 := by
  rw [components_raw, components_raw]
  constructor
  · intro h
    obtain ⟨above, below, hp, habove, hbelow⟩ := List.map_eq_append_iff.1 h
    obtain ⟨texts, rfl, rfl⟩ := Component.map_eq_names_iff.1 hbelow
    have hroot := List.map_injective_iff.2 (Component.map_injective utf8_injective) habove
    exact ⟨texts, by rw [hp, hroot], rfl⟩
  · rintro ⟨texts, hp, rfl⟩
    rw [hp, List.map_append, Component.map_eq_names_iff.2 ⟨texts, rfl, rfl⟩]

end RawPath

end ImportWeb
