import ImportWeb.Layout
import ImportWeb.Proofs.Path.Climb
import ImportWeb.Proofs.Text.Separator

/-!
Candidate paths. A token says how many relative markers stand before it and which names follow
them, and nothing else of it counts: the candidate climbs from the importing file by the markers,
one step if there are none, and goes down along the names, of which the last one carries the
extension.
-/

namespace ImportWeb

open Text ImportWeb.Path

namespace Layout

variable {layout : Layout}

/-! ### What a token means -/

/-- So many relative markers at the front of a text, and what follows the last of them. -/
def Marked (layout : Layout) (text : List Char) (markers : Nat) (rest : List Char) : Prop :=
  match layout.relativeMarker with
  | some marker => text = List.replicate markers marker ++ rest ∧ rest.head? ≠ some marker
  | none => markers = 0 ∧ rest = text

/-- What a token means in a layout: the number of relative markers before it, blanks around it
aside, and the pieces behind them that are not empty. -/
def Means (layout : Layout) (token : String) (markers : Nat) (names : List (List Char)) : Prop :=
  ∃ rest pieces, layout.Marked (trim token.toList) markers rest ∧
    Cut layout.separator.toList rest pieces ∧ names = pieces.filter (! ·.isEmpty)

theorem exists_marked (layout : Layout) (text : List Char) :
    ∃ k rest, layout.Marked text k rest := by
  unfold Marked
  cases layout.relativeMarker with
  | none => exact ⟨0, text, rfl, rfl⟩
  | some marker =>
    induction text with
    | nil => exact ⟨0, [], rfl, by simp⟩
    | cons c more ih =>
      by_cases hc : c = marker
      · obtain ⟨k, rest, hmore, hrest⟩ := ih
        exact ⟨k + 1, rest, by rw [hc, hmore, List.replicate_succ, List.cons_append], hrest⟩
      · exact ⟨0, c :: more, rfl, by simpa using hc⟩

/-- Every token means something. -/
theorem exists_means (hsep : layout.separator ≠ "") (token : String) :
    ∃ k names, layout.Means token k names := by
  obtain ⟨k, rest, hmarked⟩ := exists_marked layout (trim token.toList)
  have hne : layout.separator.toList ≠ [] := by simpa using hsep
  obtain ⟨pieces, hcut⟩ := exists_cut hne rest
  exact ⟨k, _, rest, pieces, hmarked, hcut, rfl⟩

theorem markers_of_some {marker : Char} (h : layout.relativeMarker = some marker)
    (text : List Char) : layout.markers text = (text.takeWhile (· = marker)).length := by
  rw [markers, h]

theorem Marked.eq_markers {text rest : List Char} {k : Nat} (h : layout.Marked text k rest) :
    layout.markers text = k ∧ text.drop k = rest := by
  unfold Marked at h
  cases hmarker : layout.relativeMarker with
  | none =>
    rw [hmarker] at h
    obtain ⟨rfl, rfl⟩ := h
    exact ⟨by rw [markers, hmarker], List.drop_zero⟩
  | some marker =>
    rw [hmarker] at h
    obtain ⟨rfl, hrest⟩ := h
    have hstop : rest.takeWhile (· = marker) = [] := by
      cases rest with
      | nil => rfl
      | cons c more => exact List.takeWhile_cons_of_neg (by simpa using hrest)
    have hall : ∀ c ∈ List.replicate k marker, decide (c = marker) = true := fun c hc => by
      simpa using List.eq_of_mem_replicate hc
    constructor
    · rw [markers_of_some hmarker, List.takeWhile_append_of_pos hall, hstop, List.append_nil,
        List.length_replicate]
    · exact List.drop_left' (List.length_replicate ..)

theorem Means.eq_segments {token : String} {k : Nat} {names : List (List Char)}
    (hsep : layout.separator ≠ "") (h : layout.Means token k names) :
    layout.markers (trim token.toList) = k ∧ layout.segments (trim token.toList) = names := by
  obtain ⟨rest, pieces, hmarked, hcut, rfl⟩ := h
  obtain ⟨hk, hrest⟩ := hmarked.eq_markers
  refine ⟨hk, ?_⟩
  rw [segments, hk, hrest, segments_of_cut (by simpa using hsep) hcut]

/-- One relative marker means as much as none. -/
theorem candidate?_marker {token marked : String} {marker : Char}
    (hmarker : layout.relativeMarker = some marker)
    (hnone : layout.markers (trim token.toList) = 0)
    (hmarked : trim marked.toList = marker :: trim token.toList) (source : Path) :
    layout.candidate? source marked = layout.candidate? source token := by
  have hone : layout.markers (marker :: trim token.toList) = 1 := by
    rw [markers_of_some hmarker] at hnone ⊢
    rw [List.takeWhile_cons_of_pos (by simp), List.length_cons, hnone]
  have hsegments : layout.segments (marker :: trim token.toList) =
      layout.segments (trim token.toList) := by
    rw [segments, segments, hone, hnone, List.drop_one, List.tail_cons, List.drop_zero]
  have hlevels : layout.levels (marker :: trim token.toList) =
      layout.levels (trim token.toList) := by
    rw [levels, levels, hone, hnone, Nat.max_self, Nat.zero_max]
  simp only [candidate?, target?, hmarked, hsegments, hlevels]

/-! ### Where it leads -/

/-- The names below the directory that the markers select: without any, the package's own. -/
def named? (layout : Layout) (names : List (List Char)) : Option (List (List Char)) :=
  if names = [] then layout.packageIndex.map fun name => [name.toList] else some names

/-- The names with a dot and the extension at the last one, if there is an extension. -/
def extended (layout : Layout) (names : List (List Char)) : List (List Char) :=
  if layout.extension = "" then names
  else names.dropLast ++ names.getLast?.toList.map (· ++ '.' :: layout.extension.toList)

theorem target?_eq (layout : Layout) (text : List Char) :
    layout.target? text = layout.named? (layout.segments text) := by
  unfold target? named?
  split
  case h_1 h => rw [h, if_pos rfl]
  case h_2 h => rw [if_neg h]

theorem exists_source {source : Path} {dirs : List (List Char)} {file : List Char}
    (hclean : source.clean = source)
    (hdirs : source.components = .root :: (dirs ++ [file]).map .name) :
    source = Location.toPath (dirs ++ [file]) ∧ ∀ n ∈ dirs ++ [file], IsName n := by
  constructor
  · rw [Location.toPath_eq, ← hdirs, ← hclean, ofComponents_components_clean]
  · intro n hn
    refine isName_of_mem_components (p := source) ?_
    rw [hdirs]
    exact List.mem_cons_of_mem _ (List.mem_map_of_mem hn)

/-- The names that are pushed end in the extension. -/
theorem append_suffix_toPath (layout : Layout) (l : Location) {names : List (List Char)}
    (hne : names ≠ []) :
    (Location.toPath (l ++ names)).append layout.suffix =
      Location.toPath (l ++ layout.extended names) := by
  unfold suffix extended
  by_cases hext : layout.extension = ""
  · rw [if_pos (by simp [hext]), if_pos hext, Path.append, List.append_nil]
  · rw [if_neg (by simpa using hext), if_neg hext]
    rcases names.eq_nil_or_concat with rfl | ⟨init, last, rfl⟩
    · exact absurd rfl hne
    · rw [List.concat_eq_append, ← List.append_assoc, Location.append_toPath,
        List.dropLast_concat, List.getLast?_concat, Option.toList_some, List.map_singleton,
        List.append_assoc]

theorem candidate?_toPath {token : String} {names : List (List Char)} {l : Location}
    (hl : ∀ n ∈ l, IsName n) (htarget : layout.target? (trim token.toList) = some names)
    (hne : names ≠ []) (hnames : ∀ n ∈ names, IsPiece n)
    (hlevels : layout.levels (trim token.toList) ≤ l.length) :
    layout.candidate? l.toPath token =
      some (along (l.take (l.length - layout.levels (trim token.toList)) ++
        layout.extended names)) := by
  have habove : ∀ n ∈ l.take (l.length - layout.levels (trim token.toList)), IsPiece n :=
    fun n hn => (hl n (List.mem_of_mem_take hn)).isPiece
  simp only [candidate?, Option.bind_eq_bind, Location.ancestor?_toPath hl, if_pos hlevels,
    Option.bind_some, htarget, Location.foldl_push_toPath habove hnames,
    append_suffix_toPath layout _ hne, Location.clean_toPath_eq_along]
  rfl

theorem named?_eq_none_iff {names : List (List Char)} :
    layout.named? names = none ↔ names = [] ∧ layout.packageIndex = none := by
  unfold named?
  split
  case isTrue h => simp [h]
  case isFalse h => simp [h]

/-- The pieces that are pushed for the names of a token. -/
theorem isPiece_of_named? {names target : List (List Char)}
    (hindex : ∀ name ∈ layout.packageIndex, IsPiece name.toList)
    (hnames : ∀ n ∈ names, IsPiece n) (h : layout.named? names = some target) :
    target ≠ [] ∧ ∀ n ∈ target, IsPiece n := by
  unfold named? at h
  split at h
  case isTrue =>
    obtain ⟨name, hname, rfl⟩ := Option.map_eq_some_iff.1 h
    refine ⟨List.cons_ne_nil _ _, fun n hn => ?_⟩
    rw [List.mem_singleton.1 hn]
    exact hindex name hname
  case isFalse hne =>
    obtain rfl := Option.some.inj h
    exact ⟨hne, hnames⟩

/-- A token leads nowhere if its markers climb above the root or if it names nothing. Otherwise
its names lead down from the directory that the markers select, and one marker selects the same
directory as none. -/
theorem candidate?_of_means {source : Path} {token : String} {dirs names : List (List Char)}
    {file : List Char} {k : Nat} (hsep : layout.separator ≠ "")
    (hindex : ∀ name ∈ layout.packageIndex, IsPiece name.toList) (hclean : source.clean = source)
    (hdirs : source.components = .root :: (dirs ++ [file]).map .name)
    (hmeans : layout.Means token k names) (hslash : ∀ n ∈ names, '/' ∉ n) :
    (layout.candidate? source token = none ↔
      dirs.length + 1 < max k 1 ∨ names = [] ∧ layout.packageIndex = none) ∧
    (max k 1 ≤ dirs.length + 1 → ∀ target, layout.named? names = some target →
      layout.candidate? source token =
        some (along (dirs.take (dirs.length + 1 - max k 1) ++ layout.extended target))) ∧
    (k = 0 → ∀ marker, layout.relativeMarker = some marker → ∀ marked : String,
      trim marked.toList = marker :: trim token.toList →
        layout.candidate? source marked = layout.candidate? source token) := by
  obtain ⟨rfl, hl⟩ := exists_source hclean hdirs
  obtain ⟨hk, hsegments⟩ := hmeans.eq_segments hsep
  have hlevels : layout.levels (trim token.toList) = max k 1 := by rw [levels, hk]
  have htarget : layout.target? (trim token.toList) = layout.named? names := by
    rw [target?_eq, hsegments]
  have hnames : ∀ n ∈ names, IsPiece n := by
    intro n hn
    obtain ⟨rest, pieces, -, -, rfl⟩ := hmeans
    exact ⟨hslash n hn, by simpa using (List.mem_filter.1 hn).2⟩
  have hfound : max k 1 ≤ dirs.length + 1 → ∀ target, layout.named? names = some target →
      layout.candidate? (Location.toPath (dirs ++ [file])) token =
        some (along (dirs.take (dirs.length + 1 - max k 1) ++ layout.extended target)) := by
    intro hle target hnamed
    obtain ⟨hne, hpieces⟩ := isPiece_of_named? hindex hnames hnamed
    rw [candidate?_toPath hl (htarget.trans hnamed) hne hpieces (by simpa [hlevels] using hle),
      hlevels, List.length_append, List.length_singleton,
      List.take_append_of_le_length (by omega)]
  refine ⟨?_, hfound, fun hzero marker hmarker marked hmarked =>
    candidate?_marker hmarker (hk.trans hzero) hmarked _⟩
  rw [← named?_eq_none_iff]
  constructor
  · intro hnone
    by_contra hsome
    obtain ⟨hle, hnamed⟩ := not_or.1 hsome
    obtain ⟨target, htarget⟩ := Option.ne_none_iff_exists'.1 hnamed
    rw [hfound (Nat.le_of_not_lt hle) target htarget] at hnone
    cases hnone
  · rintro (hlt | hnamed)
    · simp only [candidate?, Location.ancestor?_toPath hl, hlevels, List.length_append,
        List.length_singleton, if_neg (Nat.not_le.2 hlt)]
      rfl
    · simp only [candidate?, htarget, hnamed]
      cases Path.ancestor? _ _ <;> rfl

/-- Two markers climb one step above the importing file's directory, and the two dots take the
name before them back. -/
theorem candidate?_of_means_doubled :
    Means ⟨"::", some '^', "rs", none⟩ " ^^a::..::b " 2 [['a'], ['.', '.'], ['b']] ∧
      candidate? ⟨"::", some '^', "rs", none⟩ (.ofString "/p/q/f.rs") " ^^a::..::b " =
        some (.ofString "/p/b.rs") := by
  have hcut : Cut "::".toList (['a'] ++ "::".toList ++ (['.', '.'] ++ "::".toList ++ ['b']))
      [['a'], ['.', '.'], ['b']] := .first (by decide) (.first (by decide) (.whole (by decide)))
  have hmeans : Means ⟨"::", some '^', "rs", none⟩ " ^^a::..::b " 2 [['a'], ['.', '.'], ['b']] :=
    ⟨_, _, ⟨by decide, by decide⟩, hcut, by decide⟩
  have hsource : (Path.ofString "/p/q/f.rs").components =
      .root :: ([['p'], ['q']] ++ ["f.rs".toList]).map .name := by decide
  refine ⟨hmeans, ?_⟩
  rw [(candidate?_of_means (by decide) (by simp) (by decide) hsource hmeans (by decide)).2.1
    (by decide) _ rfl]
  decide

end Layout

end ImportWeb
