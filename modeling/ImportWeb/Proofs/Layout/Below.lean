import ImportWeb.Style.Entry
import ImportWeb.Proofs.Layout.Candidate
import ImportWeb.Proofs.Path.Push

/-!
Candidates and the directory that the markers select. The names of a token are cut at the layout's
separator only, so they are texts with slashes of their own, and each is pushed as it is. Where none
of them begins with a slash or steps up, the candidate lies below the directory as soon as there is
a name in them; but a text that begins with a slash leads away from the root, whatever the
directory.
-/

namespace ImportWeb

open Text ImportWeb.Path

namespace Location

variable {l below : Location}

theorem destination_toPath (h : ∀ n ∈ l, IsName n) : l.toPath.destination = l := by
  by_cases hne : l = []
  · subst hne
    decide
  have hslash : ∀ n ∈ l, '/' ∉ n := fun n hn => (h n hn).1
  have hup : ['.', '.'] ∉ l := fun hmem => absurd (h _ hmem) (by decide)
  have hstay : climb [] [] = [] := rfl
  rw [destination, toPath, splitAtChar_cons_self, splitAtChar_joinWith hne hslash, List.foldl_cons,
    hstay, foldl_climb_of_descends hslash hup, List.nil_append]
  exact List.filter_eq_self.2 fun n hn => decide_eq_true (h n hn)

theorem isBelow_toPath_iff (hl : ∀ n ∈ l, IsName n) (hb : ∀ n ∈ below, IsName n) :
    IsBelow l.toPath (l ++ below).toPath ↔ below ≠ [] := by
  refine ⟨?_, isBelow_toPath hl hb⟩
  rintro ⟨-, hne⟩ rfl
  exact hne (by rw [List.append_nil])

end Location

namespace Layout

variable {layout : Layout}

/-! ### What is pushed -/

theorem named?_ne_nil {names target : List (List Char)} (h : layout.named? names = some target) :
    target ≠ [] := by
  unfold named? at h
  split at h
  case isTrue =>
    obtain ⟨name, -, rfl⟩ := Option.map_eq_some_iff.1 h
    exact List.cons_ne_nil _ _
  case isFalse hne => exact Option.some.inj h ▸ hne

theorem extended_concat (layout : Layout) (init : List (List Char)) (last : List Char) :
    layout.extended (init ++ [last]) = init ++ [last ++ layout.suffix] := by
  unfold extended suffix
  by_cases hext : layout.extension = ""
  · rw [if_pos hext, if_pos (by simp [hext]), List.append_nil]
  · rw [if_neg hext, if_neg (by simpa using hext), List.dropLast_concat, List.getLast?_concat,
      Option.toList_some, List.map_singleton]

theorem head?_suffix (layout : Layout) : layout.suffix.head? ≠ some '/' := by
  unfold suffix
  split <;> simp

/-- The extension comes to the end of the last text that is pushed. -/
theorem append_suffix_push (layout : Layout) (p : Path) (text : List Char) :
    (p.push text).append layout.suffix = p.push (text ++ layout.suffix) := by
  by_cases htext : IsRooted text
  · have hboth : IsRooted (text ++ layout.suffix) := by
      rw [IsRooted, List.head?_append, htext, Option.some_or]
    rw [push_of_isRooted htext, push_of_isRooted hboth, append]
  · have hboth : ¬ IsRooted (text ++ layout.suffix) := by
      cases text with
      | nil => exact layout.head?_suffix
      | cons c rest => exact htext
    rw [push_of_not_isRooted htext, push_of_not_isRooted hboth]
    split <;> simp [append]

theorem append_suffix_foldl_push (layout : Layout) {target : List (List Char)} (hne : target ≠ [])
    (p : Path) : (target.foldl push p).append layout.suffix =
      (layout.extended target).foldl push p := by
  obtain ⟨init, last, rfl⟩ := (List.eq_nil_or_concat target).resolve_left hne
  rw [List.concat_eq_append, extended_concat, List.foldl_concat, List.foldl_concat,
    append_suffix_push]

/-- A candidate is made of the directory that the markers select and the names of the token. -/
theorem candidate?_eq_some {source candidate : Path} {token : String} {k : Nat}
    {names : List (List Char)} (hsep : layout.separator ≠ "") (hmeans : layout.Means token k names)
    (h : layout.candidate? source token = some candidate) :
    ∃ directory target, source.ancestor? (max k 1) = some directory ∧
      layout.named? names = some target ∧
      candidate = ((layout.extended target).foldl push directory).clean := by
  obtain ⟨rfl, rfl⟩ := hmeans.eq_segments hsep
  obtain ⟨directory, hdirectory, h⟩ := Option.bind_eq_some_iff.1 h
  obtain ⟨target, htarget, h⟩ := Option.bind_eq_some_iff.1 h
  rw [target?_eq] at htarget
  refine ⟨directory, target, hdirectory, htarget, ?_⟩
  rw [← append_suffix_foldl_push layout (named?_ne_nil htarget), ← Option.some.inj h]

/-! ### Names with an extension -/

/-- A text without slashes that comes to the end belongs to the last piece. -/
theorem splitAtChar_append_of_not_mem {s : List Char} (h : '/' ∉ s) (text : List Char) :
    ∃ init last, splitAtChar '/' text = init ++ [last] ∧
      splitAtChar '/' (text ++ s) = init ++ [last ++ s] := by
  obtain ⟨init, last, hsplit⟩ :=
    (List.eq_nil_or_concat _).resolve_left (splitAtChar_ne_nil '/' text)
  rw [List.concat_eq_append] at hsplit
  have hpieces : ∀ piece ∈ init ++ [last], '/' ∉ piece := fun piece hp =>
    not_mem_of_mem_splitAtChar (hsplit ▸ hp)
  have hjoin : joinWith ['/'] (init ++ [last]) ++ s = joinWith ['/'] (init ++ [last ++ s]) :=
    (List.cons.inj (congrArg Path.chars (Location.append_toPath init last s))).2
  refine ⟨init, last, hsplit, ?_⟩
  rw [← joinWith_splitAtChar '/' text, hsplit, hjoin, splitAtChar_joinWith (by simp)]
  intro piece hp
  rcases List.mem_append.1 hp with hp | hp
  · exact hpieces piece (List.mem_append_left _ hp)
  · rw [List.mem_singleton.1 hp, List.mem_append, not_or]
    exact ⟨hpieces last (by simp), h⟩

/-- An extension without slashes makes no piece that steps up. -/
theorem descends_append_suffix (hdot : layout.extension.toList.head? ≠ some '.')
    (hslash : '/' ∉ layout.extension.toList) {text : List Char} (h : Descends text) :
    Descends (text ++ layout.suffix) := by
  unfold suffix
  split
  case isTrue => rwa [List.append_nil]
  case isFalse hne =>
    obtain ⟨init, last, hsplit, hsplit'⟩ :=
      splitAtChar_append_of_not_mem (s := '.' :: layout.extension.toList) (by simpa using hslash)
        text
    rw [Descends, hsplit', List.mem_append, List.mem_singleton, not_or]
    constructor
    · exact fun hmem => h (hsplit ▸ List.mem_append_left _ hmem)
    · intro hup
      rcases last with _ | ⟨c, _ | ⟨d, rest⟩⟩
      · simp [← (List.cons.inj hup).2] at hdot
      · exact hne (by simp [← (List.cons.inj (List.cons.inj hup).2).2])
      · simp at hup

/-! ### Candidates below the directory -/

/-- There is a name among the pieces of some texts. -/
def HoldsName (texts : List (List Char)) : Prop :=
  ∃ piece ∈ texts.flatMap (splitAtChar '/'), IsName piece

theorem descends_extended (hdot : layout.extension.toList.head? ≠ some '.')
    (hslash : '/' ∉ layout.extension.toList) {target : List (List Char)}
    (h : ∀ text ∈ target, Descends text) : ∀ text ∈ layout.extended target, Descends text := by
  rcases target.eq_nil_or_concat with rfl | ⟨init, last, rfl⟩
  · simp [extended]
  · rw [List.concat_eq_append] at h ⊢
    rw [extended_concat]
    intro text htext
    rcases List.mem_append.1 htext with htext | htext
    · exact h text (List.mem_append_left _ htext)
    · rw [List.mem_singleton.1 htext]
      exact descends_append_suffix hdot hslash (h last (by simp))

/-- Texts that neither step up nor begin with a slash lead below a location if they hold a name. -/
theorem isBelow_clean_foldl_push {l : Location} {texts : List (List Char)}
    (hl : ∀ n ∈ l, IsName n) (hrooted : ∀ text ∈ texts, ¬ IsRooted text)
    (hup : ∀ text ∈ texts, Descends text) :
    IsBelow l.toPath (texts.foldl push l.toPath).clean ↔ HoldsName texts := by
  have habsolute := Location.isAbsolute_toPath l
  have hnoup : ['.', '.'] ∉ texts.flatMap (splitAtChar '/') := fun hmem => by
    obtain ⟨text, htext, hpiece⟩ := List.mem_flatMap.1 hmem
    exact hup text htext hpiece
  have hbelow : ∀ n ∈ (texts.flatMap (splitAtChar '/')).filter (fun piece => IsName piece),
      IsName n := fun n hn => of_decide_eq_true (List.mem_filter.1 hn).2
  rw [clean_eq_destination (isAbsolute_foldl_push habsolute texts),
    destination_foldl_push habsolute hrooted, Location.destination_toPath hl,
    foldl_climb_of_descends (fun _ => slash_not_mem_of_mem_flatMap) hnoup,
    Location.isBelow_toPath_iff hl hbelow, ne_eq, List.filter_eq_nil_iff, HoldsName]
  simp only [decide_eq_true_eq, not_forall, not_not, exists_prop]

/-- If no text of the target steps up, the candidate lies strictly below the directory that the
markers select exactly if none of the texts begins with a slash and some piece of them is a name, or
if the way that begins at the last slash in front happens to lead there; for that way begins at the
root. -/
theorem candidate?_below_iff {source candidate : Path} {token : String} {k : Nat}
    {names : List (List Char)} (hsep : layout.separator ≠ "")
    (hdot : layout.extension.toList.head? ≠ some '.') (habsolute : source.isAbsolute = true)
    (hclean : source.clean = source) (hmeans : layout.Means token k names)
    (h : layout.candidate? source token = some candidate) :
    ∃ directory target, source.ancestor? (max k 1) = some directory ∧
      layout.named? names = some target ∧
      ((∀ text ∈ target, Descends text) →
        ('/' ∈ layout.extension.toList → ∀ text ∈ layout.extended target, Descends text) →
        (IsBelow directory candidate ↔
          (∀ text ∈ layout.extended target, ¬ IsRooted text) ∧ HoldsName (layout.extended target) ∨
            ∃ way, Restarts (layout.extended target) way ∧ IsBelow directory (along way))) ∧
      ∀ way, Restarts (layout.extended target) way → candidate = along way := by
  obtain ⟨directory, target, hdirectory, htarget, rfl⟩ := candidate?_eq_some hsep hmeans h
  refine ⟨directory, target, hdirectory, htarget, fun hup hext => ?_,
    fun way => clean_foldl_push_of_restarts⟩
  obtain ⟨l, hl, rfl⟩ : ∃ l : Location, (∀ n ∈ l, IsName n) ∧ directory = l.toPath := by
    obtain ⟨below, hbelow, hcomponents⟩ := exists_names habsolute hclean
    have hsource : source = Location.toPath below := by
      rw [Location.toPath_eq, ← hcomponents, ← hclean, ofComponents_components_clean]
    rw [hsource, Location.ancestor?_toPath hbelow] at hdirectory
    split at hdirectory
    case isTrue =>
      exact ⟨_, fun n hn => hbelow n (List.mem_of_mem_take hn), (Option.some.inj hdirectory).symm⟩
    case isFalse => cases hdirectory
  have hdescends : ∀ text ∈ layout.extended target, Descends text := by
    by_cases hslash : '/' ∈ layout.extension.toList
    · exact hext hslash
    · exact descends_extended hdot hslash hup
  rcases restarts_or (layout.extended target) with hrooted | ⟨way, hway⟩
  · rw [isBelow_clean_foldl_push hl hrooted hdescends]
    exact ⟨fun hname => .inl ⟨hrooted, hname⟩, fun hcases =>
      (hcases.resolve_right fun ⟨way, hway, _⟩ => hway.not_forall hrooted).2⟩
  · rw [clean_foldl_push_of_restarts hway]
    exact ⟨fun hbelow => .inr ⟨way, hway, hbelow⟩, fun hcases => by
      obtain ⟨way', hway', hbelow⟩ := hcases.resolve_left fun hall => hway.not_forall hall.1
      rwa [← clean_foldl_push_of_restarts (p := l.toPath) hway,
        clean_foldl_push_of_restarts hway']⟩

/-- Two markers, a separator of two characters, and slashes in a name and in the extension. -/
theorem candidate?_below_iff_deep :
    Means ⟨"::", some '^', "d/ts", none⟩ "^^a::b/c" 2 [['a'], ['b', '/', 'c']] ∧
      candidate? ⟨"::", some '^', "d/ts", none⟩ (.ofString "/p/q/f.ts") "^^a::b/c" =
        some (.ofString "/p/a/b/c.d/ts") ∧
      (Path.ofString "/p/q/f.ts").ancestor? 2 = some (.ofString "/p") ∧
      IsBelow (.ofString "/p") (.ofString "/p/a/b/c.d/ts") := by
  have hcut : Cut "::".toList (['a'] ++ "::".toList ++ ['b', '/', 'c']) [['a'], ['b', '/', 'c']] :=
    .first (by decide) (.whole (by decide))
  have hmeans : Means ⟨"::", some '^', "d/ts", none⟩ "^^a::b/c" 2 [['a'], ['b', '/', 'c']] :=
    ⟨_, _, ⟨by decide, by decide⟩, hcut, by decide⟩
  have hfound : candidate? ⟨"::", some '^', "d/ts", none⟩ (.ofString "/p/q/f.ts") "^^a::b/c" =
      some (.ofString "/p/a/b/c.d/ts") := by decide
  have hancestor : (Path.ofString "/p/q/f.ts").ancestor? 2 = some (.ofString "/p") := by decide
  obtain ⟨directory, target, hdirectory, htarget, hbelow, -⟩ :=
    candidate?_below_iff (by decide) (by decide) (by decide) (by decide) hmeans hfound
  obtain rfl := Option.some.inj (hdirectory.symm.trans hancestor)
  obtain rfl : target = [['a'], ['b', '/', 'c']] := (Option.some.inj htarget).symm
  exact ⟨hmeans, hfound, hancestor,
    (hbelow (by decide) (by decide)).2 (.inl ⟨by decide, ['a'], by decide, by decide⟩)⟩

/-- The style of a user has dots for separators, so what is left of `./util` begins with a slash and
leads away from the directory of the importing file. -/
theorem candidate?_elsewhere :
    let entry : StyleEntry :=
      ⟨"lua", none, ["lua"], "require \"(?P<module>[^\"]+)\"", ".", none, "lua", none⟩
    entry.layout.Means "./util" 0 ["/util".toList] ∧ Descends "/util".toList ∧
      (Path.ofString "/p/q/main.lua").ancestor? (max 0 1) = some (.ofString "/p/q") ∧
      entry.layout.candidate? (.ofString "/p/q/main.lua") "./util" = some (.ofString "/util.lua") ∧
      ¬ IsBelow (.ofString "/p/q") (.ofString "/util.lua") := by
  have hcut : Cut ".".toList ([] ++ ".".toList ++ "/util".toList) [[], "/util".toList] :=
    .first (by decide) (.whole (by decide))
  exact ⟨⟨_, _, ⟨rfl, rfl⟩, hcut, rfl⟩, by decide, by decide, by decide, by decide⟩

end Layout

end ImportWeb
