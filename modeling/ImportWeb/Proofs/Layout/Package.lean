import ImportWeb.Import
import ImportWeb.Proofs.Layout.Candidate
import ImportWeb.Proofs.Path.Push

/-!
Modules and packages. Whether a dotted token stands for a module or for a package is told from its
text alone. One with a name stands for the file of a module, and no other file is looked for: a
package of that name is from elsewhere even if its index is on disk. The index is what a token of
markers alone stands for.
-/

namespace ImportWeb

open Text ImportWeb.Path

/-- The path to which some names lead from a directory. -/
def Path.descend (directory : Path) (names : List (List Char)) : Path :=
  ofComponents (directory.components ++ names.map .name)

theorem Location.descend_toPath {l : Location} (hl : ∀ n ∈ l, IsName n)
    (names : List (List Char)) : l.toPath.descend names = toPath (l ++ names) := by
  rw [Path.descend, components_toPath hl, List.cons_append, ← List.map_append, ← toPath_eq]

namespace Layout

/-! ### Names of modules -/

theorem isName_append_py {piece : List Char} (h : '/' ∉ piece) :
    IsName (piece ++ ".py".toList) := by
  have hslash : '/' ∉ piece ++ ".py".toList := by
    rw [List.mem_append, not_or]
    exact ⟨h, by decide⟩
  have hlength : (piece ++ ".py".toList).length = piece.length + 3 := List.length_append
  -- what is no name is too short
  refine (isName_iff hslash).2 ⟨?_, ?_, ?_⟩ <;>
  · intro heq
    rw [heq] at hlength
    simp only [List.length_nil, List.length_cons] at hlength
    omega

variable {source directory : Path} {token : String} {k : Nat} {names target : List (List Char)}

/-- The dots of a token separate its names, so no name is a step of its own. -/
theorem Means.isName_python (hmeans : python.Means token k names) (hslash : ∀ n ∈ names, '/' ∉ n) :
    ∀ n ∈ names, IsName n := by
  obtain ⟨rest, pieces, -, hcut, rfl⟩ := hmeans
  intro n hn
  have hdot : '.' ∉ n := hcut.not_mem n (List.mem_filter.1 hn).1
  refine (isName_iff (hslash n hn)).2 ⟨by simpa using (List.mem_filter.1 hn).2, ?_, ?_⟩ <;>
  · rintro rfl
    simp at hdot

theorem isName_of_named?_python (hnames : ∀ n ∈ names, IsName n)
    (h : python.named? names = some target) : target ≠ [] ∧ ∀ n ∈ target, IsName n := by
  unfold named? at h
  split at h
  case isTrue =>
    obtain rfl : ["__init__".toList] = target := Option.some.inj h
    refine ⟨List.cons_ne_nil _ _, fun n hn => ?_⟩
    rw [List.mem_singleton.1 hn]
    decide
  case isFalse hne => exact Option.some.inj h ▸ ⟨hne, hnames⟩

/-! ### What is looked for -/

section Above

variable {above : Location} {init : List (List Char)} {last : List Char}
  (habove : ∀ n ∈ above, IsName n)
include habove

theorem isName_of_mem_module (hnames : ∀ n ∈ init ++ [last], IsName n) :
    ∀ n ∈ above ++ (init ++ [last ++ ".py".toList]), IsName n := by
  simp only [List.forall_mem_append, List.forall_mem_singleton] at hnames ⊢
  exact ⟨habove, hnames.1, isName_append_py hnames.2.1⟩

/-- The extension of a module is at the end of the last name. -/
theorem append_py_descend (init : List (List Char)) (last : List Char) :
    (above.toPath.descend (init ++ [last])).append ".py".toList =
      Location.toPath (above ++ (init ++ [last ++ ".py".toList])) := by
  rw [Location.descend_toPath habove, ← List.append_assoc, Location.append_toPath,
    List.append_assoc]

theorem along_extended_python (hne : target ≠ []) (htarget : ∀ n ∈ target, IsName n) :
    along (above ++ python.extended target) =
      (above.toPath.descend target).append ".py".toList := by
  obtain ⟨init, last, rfl⟩ := (List.eq_nil_or_concat target).resolve_left hne
  rw [List.concat_eq_append] at htarget ⊢
  have hlast : python.extended (init ++ [last]) = init ++ [last ++ ".py".toList] := by
    rw [extended, if_neg (by decide), List.dropLast_concat, List.getLast?_concat]
    rfl
  rw [append_py_descend habove, hlast, ← Location.clean_toPath_eq_along,
    Location.clean_toPath (isName_of_mem_module habove htarget)]

/-- The index of a package lies one step further down than the module of the same name. -/
theorem module_ne_index (hne : names ≠ []) (hnames : ∀ n ∈ names, IsName n) :
    (above.toPath.descend names).append ".py".toList ≠
      above.toPath.descend (names ++ ["__init__.py".toList]) := by
  obtain ⟨init, last, rfl⟩ := (List.eq_nil_or_concat names).resolve_left hne
  rw [List.concat_eq_append, append_py_descend habove, Location.descend_toPath habove] at *
  have hindex : ∀ n ∈ above ++ (init ++ [last] ++ ["__init__.py".toList]), IsName n :=
    List.forall_mem_append.2 ⟨habove, List.forall_mem_append.2
      ⟨hnames, List.forall_mem_singleton.2 (by decide)⟩⟩
  intro heq
  have hlength := congrArg List.length
    (Location.toPath_inj (isName_of_mem_module habove hnames) hindex heq)
  simp only [List.length_append, List.length_singleton] at hlength
  omega

end Above

/-- The candidate of a dotted token is a module below the directory that the markers select. -/
theorem candidate?_python (habsolute : source.isAbsolute = true) (hclean : source.clean = source)
    (hmeans : python.Means token k names) (hslash : ∀ n ∈ names, '/' ∉ n)
    (hdirectory : source.ancestor? (max k 1) = some directory)
    (hnamed : python.named? names = some target) :
    python.candidate? source token = some ((directory.descend target).append ".py".toList) := by
  obtain ⟨l, hl, rfl⟩ := Location.exists_toPath habsolute hclean
  obtain ⟨hle, rfl⟩ := Location.ancestor?_toPath_eq_some hl hdirectory
  obtain ⟨hmarkers, hsegments⟩ := hmeans.eq_segments (by decide)
  obtain ⟨hne, htarget⟩ := isName_of_named?_python (hmeans.isName_python hslash) hnamed
  have hlevels : python.levels (trim token.toList) = max k 1 := by rw [levels, hmarkers]
  have hfound : python.target? (trim token.toList) = some target := by
    rw [target?_eq, hsegments, hnamed]
  have habove : ∀ n ∈ l.take (l.length - max k 1), IsName n := fun n hn =>
    hl n (List.mem_of_mem_take hn)
  rw [candidate?_toPath hl hfound hne (fun n hn => (htarget n hn).isPiece) (by omega), hlevels,
    along_extended_python habove hne htarget]

theorem resolve_of_candidate? {layout : Layout} {p : Path}
    (h : layout.candidate? source token = some p) (disk : Disk) :
    layout.resolve disk source token =
      if disk.isFile p then .file p else .external (Text.trimmed token) := by
  rw [resolve, h]

/-- A token with a name is found if the file of the module is there, and is from elsewhere
otherwise: the index of a package of that name does not count. It counts where a token has markers
alone, for the package is then the directory that they select. -/
theorem resolve_python (disk : Disk) (habsolute : source.isAbsolute = true)
    (hclean : source.clean = source) (hmeans : python.Means token k names)
    (hslash : ∀ n ∈ names, '/' ∉ n) (hdirectory : source.ancestor? (max k 1) = some directory) :
    (names ≠ [] →
      (python.resolve disk source token =
        if disk.isFile ((directory.descend names).append ".py".toList) then
          .file ((directory.descend names).append ".py".toList)
        else .external (Text.trimmed token)) ∧
      python.resolve disk source token ≠
        .file (directory.descend (names ++ ["__init__.py".toList]))) ∧
    (names = [] →
      python.resolve disk source token =
        if disk.isFile (directory.descend ["__init__.py".toList]) then
          .file (directory.descend ["__init__.py".toList])
        else .external (Text.trimmed token)) := by
  obtain ⟨above, habove, rfl⟩ : ∃ above : Location, (∀ n ∈ above, IsName n) ∧
      directory = above.toPath := by
    obtain ⟨l, hl, rfl⟩ := Location.exists_toPath habsolute hclean
    obtain ⟨-, rfl⟩ := Location.ancestor?_toPath_eq_some hl hdirectory
    exact ⟨_, fun n hn => hl n (List.mem_of_mem_take hn), rfl⟩
  have hcandidate (target : List (List Char)) (hnamed : python.named? names = some target) :=
    resolve_of_candidate?
      (candidate?_python habsolute hclean hmeans hslash hdirectory hnamed) disk
  constructor
  · intro hne
    have hresolve := hcandidate names (if_neg hne)
    refine ⟨hresolve, ?_⟩
    rw [hresolve]
    split
    case isTrue =>
      intro heq
      exact module_ne_index habove hne (hmeans.isName_python hslash) (Import.file.inj heq)
    case isFalse => exact fun heq => by cases heq
  · rintro rfl
    have hindex : (above.toPath.descend ["__init__".toList]).append ".py".toList =
        above.toPath.descend ["__init__.py".toList] := by
      rw [Location.descend_toPath habove ["__init__.py".toList]]
      exact append_py_descend habove [] "__init__".toList
    rw [hcandidate _ rfl, ← hindex]

/-- Two markers before a module, and two markers alone. -/
theorem resolve_python_marked :
    let disk : Disk := ⟨[(["p".toList], .directory), (["p".toList, "pkg".toList], .directory),
      (["p".toList, "pkg".toList, "sub.py".toList], .file .empty),
      (["p".toList, "__init__.py".toList], .file .empty)], []⟩
    let source := Path.ofString "/p/q/main.py"
    python.Means " ..pkg.sub" 2 ["pkg".toList, "sub".toList] ∧ python.Means ".." 2 [] ∧
      source.ancestor? 2 = some (.ofString "/p") ∧
      python.resolve disk source " ..pkg.sub" = .file (.ofString "/p/pkg/sub.py") ∧
      python.resolve disk source ".." = .file (.ofString "/p/__init__.py") := by
  intro disk source
  have hcut : Cut ".".toList ("pkg".toList ++ ".".toList ++ "sub".toList)
      ["pkg".toList, "sub".toList] := .first (by decide) (.whole (by decide))
  have hmodule : python.Means " ..pkg.sub" 2 ["pkg".toList, "sub".toList] :=
    ⟨_, _, ⟨by decide, by decide⟩, hcut, by decide⟩
  have hindex : python.Means ".." 2 [] :=
    ⟨[], [[]], ⟨by decide, by decide⟩, .whole (by decide), rfl⟩
  have hdirectory : source.ancestor? 2 = some (.ofString "/p") := by decide
  refine ⟨hmodule, hindex, hdirectory, ?_, ?_⟩
  · rw [((resolve_python disk (by decide) (by decide) hmodule (by decide) hdirectory).1
      (by decide)).1, if_pos (by decide +kernel)]
    decide +kernel
  · rw [(resolve_python disk (by decide) (by decide) hindex (by decide) hdirectory).2 rfl,
      if_pos (by decide +kernel)]
    decide +kernel

/-- The index of a package is on disk, and the token that names the package is from elsewhere. -/
theorem resolve_python_package :
    let disk : Disk := ⟨[(["p".toList], .directory), (["p".toList, "pkg".toList], .directory),
      (["p".toList, "pkg".toList, "__init__.py".toList], .file .empty)], []⟩
    let source := Path.ofString "/p/main.py"
    let package := (Path.ofString "/p").descend ["pkg".toList]
    source.isAbsolute = true ∧ source.clean = source ∧ python.Means "pkg" 0 ["pkg".toList] ∧
      source.ancestor? (max 0 1) = some (.ofString "/p") ∧
      disk.isFile (package.append ".py".toList) = false ∧
      disk.isFile (package.descend ["__init__.py".toList]) = true ∧
      package.descend ["__init__.py".toList] = .ofString "/p/pkg/__init__.py" ∧
      python.resolve disk source "pkg" = .external "pkg" := by
  have hmeans : python.Means "pkg" 0 ["pkg".toList] :=
    ⟨"pkg".toList, ["pkg".toList], ⟨by decide, by decide⟩, .whole (by decide), by decide⟩
  exact ⟨by decide, by decide, hmeans, by decide, by decide +kernel, by decide +kernel,
    by decide +kernel, by decide +kernel⟩

end Layout

end ImportWeb
