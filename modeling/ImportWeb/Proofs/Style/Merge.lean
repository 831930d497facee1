import ImportWeb.Proofs.Graph.History
import ImportWeb.Proofs.Style.Anchor
import ImportWeb.Settings

/-!
The registry of a project. The first entry at fault decides the error. Without one, the registry
has Python, C and then the other languages in the order in which the entries first name them; a
language that entries name has their styles and no others, in the order of the entries, and a
built-in language that none names keeps its own. A selection comes afterwards.
-/

namespace ImportWeb

/-! ### Entries at fault -/

namespace StyleEntry

/-- What is wrong with an entry. A later cause counts only without an earlier one. -/
inductive Fault (e : StyleEntry) : StyleError → Prop
  | separator (h : e.separator = "") : Fault e (.emptySeparator e.styleName)
  | extensions (hseparator : e.separator ≠ "") (h : ¬ Style.Usable e.extensions) :
      Fault e (.noExtensions e.styleName)
  | pattern (hseparator : e.separator ≠ "") (hextensions : Style.Usable e.extensions)
      (h : Pattern.compile? Style.moduleGroup (Style.anchored e.pattern) = none) :
      Fault e (.invalidPattern e.styleName)
  | group {p : Pattern} (hseparator : e.separator ≠ "")
      (hextensions : Style.Usable e.extensions)
      (hpattern : Pattern.compile? Style.moduleGroup (Style.anchored e.pattern) = some p)
      (h : p.hasGroup = false) : Fault e (.missingModuleGroup e.styleName)

variable {e : StyleEntry} {err : StyleError} {entries rest : List StyleEntry}

theorem style_eq_error_iff : e.style = .error err ↔ e.Fault err := by
  constructor
  · intro h
    unfold style at h
    split at h
    case isTrue hseparator =>
      cases h
      exact .separator hseparator
    case isFalse hseparator =>
      unfold Style.make at h
      split at h
      case h_1 hnone =>
        cases h
        exact .extensions hseparator fun hextensions => Style.usable_iff.1 hextensions hnone
      case h_2 hsome =>
        have hextensions : Style.Usable e.extensions := Style.usable_iff.2 hsome
        split at h
        case h_1 hpattern =>
          cases h
          exact .pattern hseparator hextensions hpattern
        case h_2 hpattern _ =>
          split at h
          case isTrue => cases h
          case isFalse hgroup =>
            cases h
            exact .group hseparator hextensions hpattern (by simpa using hgroup)
        case h_3 hrule => exact absurd rfl (hrule e.layout)
  · intro h
    cases h with
    | separator h => exact if_pos h
    | extensions hseparator h =>
      rw [style, if_neg hseparator, Style.make, not_not.1 (mt Style.usable_iff.2 h)]
    | pattern hseparator hextensions h =>
      obtain ⟨x, rest, hcons⟩ := List.exists_cons_of_ne_nil (Style.usable_iff.1 hextensions)
      rw [style, if_neg hseparator, Style.make, hcons, h]
    | group hseparator hextensions hpattern h =>
      obtain ⟨x, rest, hcons⟩ := List.exists_cons_of_ne_nil (Style.usable_iff.1 hextensions)
      rw [style, if_neg hseparator, Style.make, hcons, hpattern]
      exact if_neg (by simp [h])

/-- An entry has a style exactly if it is not at fault. -/
theorem exists_style_iff : (∃ style, e.style = .ok style) ↔ ∀ err, ¬ e.Fault err := by
  simp only [← style_eq_error_iff]
  cases e.style with
  | error err => simp
  | ok style => simp

theorem languagesFrom_eq_error_iff (start : List Language) :
    languagesFrom start entries = .error err ↔
      ∃ before e after, entries = before ++ e :: after ∧ (∀ d ∈ before, ∀ err, ¬ d.Fault err) ∧
        e.Fault err := by
  induction entries generalizing start with
  | nil => simp [languagesFrom]
  | cons e rest ih =>
    rw [languagesFrom]
    cases hstyle : e.style with
    | error err' =>
      have hfault := style_eq_error_iff.1 hstyle
      constructor
      · rintro ⟨⟩
        exact ⟨[], e, rest, rfl, nofun, hfault⟩
      · rintro ⟨before, d, after, heq, hbefore, hd⟩
        cases before with
        | nil =>
          obtain ⟨rfl, rfl⟩ := List.cons.inj heq
          rw [← style_eq_error_iff, hstyle] at hd
          cases hd
          rfl
        | cons _ before =>
          obtain ⟨rfl, -⟩ := List.cons.inj heq
          exact absurd hfault (hbefore _ List.mem_cons_self err')
    | ok style =>
      have hsound := exists_style_iff.1 ⟨style, hstyle⟩
      refine (ih _).trans ?_
      constructor
      · rintro ⟨before, d, after, rfl, hbefore, hd⟩
        exact ⟨e :: before, d, after, rfl, List.forall_mem_cons.2 ⟨hsound, hbefore⟩, hd⟩
      · rintro ⟨before, d, after, heq, hbefore, hd⟩
        cases before with
        | nil =>
          obtain ⟨rfl, -⟩ := List.cons.inj heq
          exact absurd hd (hsound err)
        | cons _ before =>
          obtain ⟨rfl, rfl⟩ := List.cons.inj heq
          exact ⟨before, d, after, rfl, (List.forall_mem_cons.1 hbefore).2, hd⟩

theorem sound_of_languagesFrom {start languages : List Language}
    (h : languagesFrom start entries = .ok languages) : ∀ e ∈ entries, ∀ err, ¬ e.Fault err := by
  induction entries generalizing start with
  | nil => nofun
  | cons e rest ih =>
    rw [languagesFrom] at h
    cases hstyle : e.style with
    | error err =>
      rw [hstyle] at h
      cases h
    | ok style =>
      rw [hstyle] at h
      exact List.forall_mem_cons.2 ⟨exists_style_iff.1 ⟨style, hstyle⟩, ih h⟩

end StyleEntry

/-! ### Languages told from their names -/

/-- The languages of some names, with the styles of each name. -/
def languagesOf (names : List String) (styles : String → List Style) : List Language :=
  names.map fun name => ⟨name, styles name⟩

variable {names : List String} {styles : String → List Style}

theorem languagesOf_update_of_not_mem {name : String} (h : name ∉ names) (own : List Style) :
    languagesOf names (Function.update styles name own) = languagesOf names styles := by
  refine List.map_congr_left fun n hn => ?_
  rw [Function.update_of_ne (ne_of_mem_of_not_mem hn h)]

/-- A language of another name does not matter for a change. -/
theorem cons_languagesOf {n name : String} (h : n ≠ name) (own : List Style) :
    ⟨n, styles n⟩ :: languagesOf (if name ∈ names then names else names ++ [name])
        (Function.update styles name own) =
      languagesOf (if name ∈ n :: names then n :: names else n :: names ++ [name])
        (Function.update styles name own) := by
  have hmem : name ∈ n :: names ↔ name ∈ names := by simp [h.symm]
  have hown : Function.update styles name own n = styles n := Function.update_of_ne h _ _
  simp only [hmem]
  split <;> simp [languagesOf, hown]

theorem replaceOrAppend_languagesOf (name : String) (own : List Style) (hnames : names.Nodup) :
    Registry.replaceOrAppend ⟨name, own⟩ (languagesOf names styles) =
      languagesOf (if name ∈ names then names else names ++ [name])
        (Function.update styles name own) := by
  induction names with
  | nil => simp [languagesOf, Registry.replaceOrAppend]
  | cons n rest ih =>
    obtain ⟨hn, hrest⟩ := List.nodup_cons.1 hnames
    change (if n = name then ⟨name, own⟩ :: languagesOf rest styles
      else ⟨n, styles n⟩ :: Registry.replaceOrAppend ⟨name, own⟩ (languagesOf rest styles)) = _
    by_cases heq : n = name
    · subst heq
      rw [if_pos rfl, if_pos List.mem_cons_self, ← languagesOf_update_of_not_mem hn own]
      simp [languagesOf]
    · rw [if_neg heq, ih hrest]
      exact cons_languagesOf heq own

theorem addTo_languagesOf (name : String) (style : Style) (hnames : names.Nodup)
    (hnew : name ∉ names → styles name = []) :
    StyleEntry.addTo name style (languagesOf names styles) =
      languagesOf (if name ∈ names then names else names ++ [name])
        (Function.update styles name (styles name ++ [style])) := by
  induction names with
  | nil => simp [languagesOf, StyleEntry.addTo, hnew]
  | cons n rest ih =>
    obtain ⟨hn, hrest⟩ := List.nodup_cons.1 hnames
    change (if n = name then ⟨n, styles n ++ [style]⟩ :: languagesOf rest styles
      else ⟨n, styles n⟩ :: StyleEntry.addTo name style (languagesOf rest styles)) = _
    by_cases heq : n = name
    · subst heq
      rw [if_pos rfl, if_pos List.mem_cons_self,
        ← languagesOf_update_of_not_mem hn (styles n ++ [style])]
      simp [languagesOf]
    · rw [if_neg heq, ih hrest fun h => hnew (by simp [Ne.symm heq, h])]
      exact cons_languagesOf heq _

/-- Registering language after language adds the names that are new, in their order, and gives
every name among them its new styles. -/
theorem foldl_register_languagesOf (added : List String) (own : String → List Style) :
    (languagesOf added own).foldl Registry.register ⟨languagesOf names.eraseDups styles⟩ =
      ⟨languagesOf (names ++ added).eraseDups fun name =>
        if name ∈ added then own name else styles name⟩ := by
  induction added using List.reverseRecOn with
  | nil => simp [languagesOf]
  | append_singleton added name ih =>
    have hlast : languagesOf (added ++ [name]) own = languagesOf added own ++ [⟨name, own name⟩] :=
      List.map_append
    rw [hlast, List.foldl_append, ih, ← List.append_assoc, eraseDups_concat]
    change Registry.mk (Registry.replaceOrAppend ⟨name, own name⟩ _) = _
    rw [replaceOrAppend_languagesOf name _ (nodup_eraseDups _)]
    simp only [List.mem_eraseDups]
    congr 2
    funext n
    by_cases heq : n = name
    · subst heq
      simp
    · simp [heq]

/-! ### The registry of a project -/

namespace StyleEntry

/-- The styles of the entries that name a language, in their order. -/
def stylesFor (entries : List StyleEntry) (name : String) : List Style :=
  (entries.filter (·.language = name)).filterMap (·.style.toOption)

/-- The languages that entries name, in the order of their first mention. -/
def grouped (entries : List StyleEntry) : List Language :=
  languagesOf (entries.map language).eraseDups (stylesFor entries)

theorem stylesFor_concat {style : Style} (h : e.style = .ok style) :
    stylesFor (entries ++ [e]) =
      Function.update (stylesFor entries) e.language (stylesFor entries e.language ++ [style]) := by
  funext name
  by_cases hname : e.language = name
  · subst hname
    simp [stylesFor, h, Except.toOption]
  · rw [Function.update_of_ne (Ne.symm hname)]
    simp [stylesFor, hname]

theorem stylesFor_of_not_mem {name : String} (h : name ∉ entries.map language) :
    stylesFor entries name = [] := by
  have hnone : entries.filter (·.language = name) = [] := by
    simpa [List.filter_eq_nil_iff] using h
  rw [stylesFor, hnone, List.filterMap_nil]

theorem grouped_concat {style : Style} (h : e.style = .ok style) :
    addTo e.language style (grouped entries) = grouped (entries ++ [e]) := by
  unfold grouped
  rw [addTo_languagesOf _ _ (nodup_eraseDups _), List.map_append, List.map_singleton,
    eraseDups_concat]
  · simp only [List.mem_eraseDups, stylesFor_concat h]
  · exact fun hnew => stylesFor_of_not_mem (mt List.mem_eraseDups.2 hnew)

theorem languagesFrom_grouped (done : List StyleEntry) (h : ∀ e ∈ rest, ∀ err, ¬ e.Fault err) :
    languagesFrom (grouped done) rest = .ok (grouped (done ++ rest)) := by
  induction rest generalizing done with
  | nil => rw [languagesFrom, List.append_nil]
  | cons e rest ih =>
    obtain ⟨he, hrest⟩ := List.forall_mem_cons.1 h
    obtain ⟨style, hstyle⟩ := exists_style_iff.2 he
    rw [languagesFrom, hstyle]
    change languagesFrom (addTo e.language style (grouped done)) rest = _
    rw [grouped_concat hstyle, ih _ hrest, List.append_assoc, List.singleton_append]

end StyleEntry

namespace Settings

open StyleEntry

/-- The names of a project's languages: the built-in ones, and then those of its entries in the
order of their first mention. -/
def languageNames (s : Settings) : List String :=
  (["python", "c"] ++ s.styles.map language).eraseDups

/-- The styles of a language: those of the entries that name it, or else the built-in ones. -/
def stylesOf (s : Settings) (name : String) : List Style :=
  if name ∈ s.styles.map language then stylesFor s.styles name
  else ((Registry.builtin.languages.find? (·.name = name)).map Language.styles).getD []

/-- The registry of a project before any selection. -/
def whole (s : Settings) : Except StyleError Registry := { s with languages := none }.registry []

theorem eraseDups_append_eraseDups (l m : List String) :
    (l ++ m.eraseDups).eraseDups = (l ++ m).eraseDups := by
  induction m using List.reverseRecOn with
  | nil => rfl
  | append_singleton m x ih =>
    rw [← List.append_assoc, eraseDups_concat, eraseDups_concat]
    by_cases hx : x ∈ m
    · rw [if_pos hx, if_pos (List.mem_append_right l hx), ih]
    · rw [if_neg hx, ← List.append_assoc, eraseDups_concat, ih]
      simp only [List.mem_append, List.mem_eraseDups]

theorem registry_eq (s : Settings) (asked : List String) :
    s.registry asked = s.whole >>= fun r =>
      if asked ≠ [] then r.select asked
      else if s.languages.getD [] ≠ [] then r.select (s.languages.getD [])
      else .ok r := by
  unfold whole registry
  cases StyleEntry.languages s.styles with
  | error err => rfl
  | ok languages =>
    cases asked with
    | cons name rest => rfl
    | nil =>
      simp only [List.isEmpty_nil, if_true]
      cases s.languages.getD [] <;> rfl

theorem whole_eq (s : Settings) :
    s.whole = (StyleEntry.languages s.styles).map (List.foldl Registry.register .builtin) := by
  unfold whole registry
  cases StyleEntry.languages s.styles <;> rfl

theorem whole_eq_error_iff (s : Settings) {err : StyleError} :
    s.whole = .error err ↔ ∃ before e after, s.styles = before ++ e :: after ∧
      (∀ d ∈ before, ∀ err, ¬ d.Fault err) ∧ e.Fault err := by
  rw [← languagesFrom_eq_error_iff [], whole_eq, StyleEntry.languages]
  cases languagesFrom [] s.styles <;> simp [Except.map]

theorem whole_of_sound (s : Settings) (h : ∀ e ∈ s.styles, ∀ err, ¬ e.Fault err) :
    s.whole = .ok ⟨languagesOf s.languageNames s.stylesOf⟩ := by
  have hbuiltin : Registry.builtin = ⟨languagesOf ["python", "c"].eraseDups fun name =>
      ((Registry.builtin.languages.find? (·.name = name)).map Language.styles).getD []⟩ := rfl
  have hgrouped : StyleEntry.languages s.styles = .ok (grouped s.styles) :=
    languagesFrom_grouped [] h
  rw [whole_eq, hgrouped]
  change Except.ok ((grouped s.styles).foldl Registry.register .builtin) = _
  rw [grouped, hbuiltin, foldl_register_languagesOf, eraseDups_append_eraseDups]
  simp only [List.mem_eraseDups]
  rfl

theorem whole_eq_ok_iff (s : Settings) {r : Registry} :
    s.whole = .ok r ↔ (∀ e ∈ s.styles, ∀ err, ¬ e.Fault err) ∧
      r.languages = languagesOf s.languageNames s.stylesOf := by
  constructor
  · intro hr
    have hsound : ∀ e ∈ s.styles, ∀ err, ¬ e.Fault err := by
      rw [whole_eq] at hr
      cases hlanguages : StyleEntry.languages s.styles with
      | error err =>
        rw [hlanguages] at hr
        cases hr
      | ok languages => exact sound_of_languagesFrom hlanguages
    rw [whole_of_sound s hsound] at hr
    cases hr
    exact ⟨hsound, rfl⟩
  · rintro ⟨hsound, hr⟩
    rw [whole_of_sound s hsound, ← hr]

/-- The registry of a project is merged of the built-in languages and its entries, all or nothing,
and then narrowed to the languages that are asked for, or else to those of the project. -/
theorem registry_merges (s : Settings) (asked : List String) :
    (∀ err, s.whole = .error err ↔ ∃ before e after, s.styles = before ++ e :: after ∧
      (∀ d ∈ before, ∀ err, ¬ d.Fault err) ∧ e.Fault err) ∧
    (∀ r, s.whole = .ok r ↔ (∀ e ∈ s.styles, ∀ err, ¬ e.Fault err) ∧
      r.languages = languagesOf s.languageNames s.stylesOf) ∧
    s.languageNames.Nodup ∧ ["python", "c"] <+: s.languageNames ∧
    s.registry asked = s.whole >>= fun r =>
      if asked ≠ [] then r.select asked
      else if s.languages.getD [] ≠ [] then r.select (s.languages.getD [])
      else .ok r := by
  refine ⟨fun err => whole_eq_error_iff s, fun r => whole_eq_ok_iff s, nodup_eraseDups _, ?_,
    registry_eq s asked⟩
  rw [languageNames, List.eraseDups_append]
  exact List.prefix_append _ _

end Settings

end ImportWeb
