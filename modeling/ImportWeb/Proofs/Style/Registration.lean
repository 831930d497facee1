import ImportWeb.Proofs.Style.Selection

/-!
Registered languages and their own names. Registering tells names apart exactly, so all names of a
registry differ; selecting trims a name, does not tell ASCII cases apart and takes the first hit.
A language is selected by its own name exactly if the name has no blanks around it and no language
before it has the same name in another case.
-/

namespace ImportWeb

/-! ### Names up to case -/

theorem length_eq_of_sameName {a b : String} (h : sameName a b = true) :
    a.toList.length = b.toList.length := by
  have heq := congrArg List.length (eq_of_beq h)
  simpa using heq

theorem sameName_self (a : String) : sameName a a = true := beq_self_eq_true _

theorem trim_sublist (s : List Char) : (Text.trim s).Sublist s := by
  have hend : (Text.trim s).Sublist (Text.trimStart s) := by
    have h := (List.dropWhile_suffix (l := (Text.trimStart s).reverse) Text.isBlank).sublist.reverse
    rwa [List.reverse_reverse] at h
  exact hend.trans (List.dropWhile_suffix _).sublist

/-- Only blanks can make a name differ from its trimmed form, so the lengths tell. -/
theorem trimmed_eq_of_sameName {s : String} (h : sameName s (Text.trimmed s) = true) :
    Text.trimmed s = s := by
  have hlength := length_eq_of_sameName h
  rw [Text.trimmed, String.toList_ofList] at hlength
  rw [Text.trimmed, (trim_sublist s.toList).eq_of_length hlength.symm, String.ofList_toList]

namespace Registry

variable {r : Registry} {before after : List Language} {l : Language}

/-! ### Names in a registry -/

theorem names_register (r : Registry) (l : Language) :
    (r.register l).names = if l.name ∈ r.names then r.names else r.names ++ [l.name] := by
  unfold register names
  generalize r.languages = languages
  induction languages with
  | nil => rfl
  | cons k rest ih =>
    rw [replaceOrAppend]
    split
    case isTrue heq => rw [List.map_cons, List.map_cons, heq, if_pos List.mem_cons_self]
    case isFalse hne =>
      have hmem : l.name ∈ (k :: rest).map Language.name ↔ l.name ∈ rest.map Language.name := by
        rw [List.map_cons, List.mem_cons]
        exact or_iff_right (Ne.symm hne)
      simp only [hmem]
      rw [List.map_cons, ih, List.map_cons]
      split <;> rfl

theorem nodup_names_register (l : Language) (h : r.names.Nodup) : (r.register l).names.Nodup := by
  rw [names_register]
  split
  case isTrue => exact h
  case isFalse hnew =>
    refine h.append (List.nodup_singleton _) ?_
    simpa using hnew

/-- The built-in languages with others registered one after the other. -/
def withLanguages (added : List Language) : Registry := added.foldl register builtin

theorem nodup_names_withLanguages (added : List Language) : (withLanguages added).names.Nodup := by
  have hrun (r : Registry) (h : r.names.Nodup) : (added.foldl register r).names.Nodup := by
    induction added generalizing r with
    | nil => exact h
    | cons l rest ih => exact ih _ (nodup_names_register l h)
  exact hrun builtin (by decide)

/-! ### Looking a language up by its own name -/

theorem own_name_not_mem (hnames : r.names.Nodup) (hr : r.languages = before ++ l :: after) :
    l.name ∉ before.map Language.name := by
  rw [names, hr, List.map_append, List.map_cons] at hnames
  exact fun h => List.disjoint_of_nodup_append hnames h List.mem_cons_self

theorem find?_own_name_iff (hnames : r.names.Nodup) (hr : r.languages = before ++ l :: after) :
    r.find? (Text.trimmed l.name) = some l ↔
      Text.trimmed l.name = l.name ∧ ∀ k ∈ before, sameName k.name l.name = false := by
  have hdistinct := own_name_not_mem hnames hr
  unfold find?
  rw [hr]
  constructor
  · intro hfind
    have hself : sameName l.name (Text.trimmed l.name) = true :=
      List.find?_some (p := fun k : Language => sameName k.name (Text.trimmed l.name)) hfind
    have htrimmed := trimmed_eq_of_sameName hself
    rw [htrimmed, List.find?_append] at hfind
    cases hbefore : before.find? (sameName ·.name l.name) with
    | some k =>
      rw [hbefore] at hfind
      cases hfind
      exact absurd (List.mem_map_of_mem (List.mem_of_find?_eq_some hbefore)) hdistinct
    | none =>
      refine ⟨htrimmed, fun k hk => ?_⟩
      simpa using List.find?_eq_none.1 hbefore k hk
  · rintro ⟨htrimmed, hbefore⟩
    have hnone : before.find? (sameName ·.name l.name) = none := by
      simpa [List.find?_eq_none] using hbefore
    rw [htrimmed, List.find?_append, hnone]
    exact List.find?_cons_of_pos (p := fun k : Language => sameName k.name l.name)
      (sameName_self l.name)

theorem select_singleton (name : String) :
    r.select [name] = match r.find? (Text.trimmed name) with
      | none => .error (.unknownLanguage (Text.trimmed name) r.names)
      | some l => .ok ⟨[l]⟩ := by
  rw [select, selectFrom]
  cases r.find? (Text.trimmed name) <;> rfl

theorem select_own_name_iff :
    r.select [l.name] = .ok ⟨[l]⟩ ↔ r.find? (Text.trimmed l.name) = some l := by
  rw [select_singleton]
  cases r.find? (Text.trimmed l.name) with
  | none => simp
  | some k => simp

/-! ### Selecting all names -/

theorem exists_append_of_selectFrom {chosen : List Language} {names : List String}
    {narrow : Registry} (h : r.selectFrom chosen names = .ok narrow) :
    ∃ more, narrow.languages = chosen ++ more ∧ more.length ≤ names.length := by
  induction names generalizing chosen with
  | nil =>
    cases h
    exact ⟨[], (List.append_nil _).symm, Nat.le_refl 0⟩
  | cons name rest ih =>
    rw [selectFrom] at h
    split at h
    case h_1 => cases h
    case h_2 l _ =>
      split at h
      case isTrue =>
        obtain ⟨more, hmore, hlen⟩ := ih h
        exact ⟨more, hmore, Nat.le_succ_of_le hlen⟩
      case isFalse =>
        obtain ⟨more, hmore, hlen⟩ := ih h
        exact ⟨l :: more, by rw [hmore, List.append_assoc, List.singleton_append],
          Nat.succ_le_succ hlen⟩

/-- Each name has to add its own language, as no name adds more than one. -/
theorem find?_of_selectFrom_own_names (hr : r.languages = before ++ l :: after)
    (h : r.selectFrom before ((l :: after).map Language.name) = .ok r) :
    r.find? (Text.trimmed l.name) = some l ∧
      r.selectFrom (before ++ [l]) (after.map Language.name) = .ok r := by
  rw [List.map_cons, selectFrom] at h
  split at h
  case h_1 => cases h
  case h_2 k hfind =>
    split at h
    case isTrue =>
      obtain ⟨more, hmore, hlen⟩ := exists_append_of_selectFrom h
      rw [hr] at hmore
      have heq := List.append_cancel_left hmore
      rw [← heq, List.length_cons, List.length_map] at hlen
      omega
    case isFalse =>
      obtain ⟨more, hmore, -⟩ := exists_append_of_selectFrom h
      rw [hr, List.append_assoc] at hmore
      obtain ⟨rfl, -⟩ := List.cons.inj (List.append_cancel_left hmore)
      exact ⟨hfind, h⟩

/-- A selection by all names leaves nothing out exactly if each name finds its own language. -/
theorem selectFrom_own_names_iff (hnames : r.names.Nodup) (hr : r.languages = before ++ after) :
    r.selectFrom before (after.map Language.name) = .ok r ↔
      ∀ l ∈ after, r.find? (Text.trimmed l.name) = some l := by
  induction after generalizing before with
  | nil =>
    rw [List.append_nil] at hr
    rw [← hr]
    simp [selectFrom]
  | cons l after ih =>
    have hr' : r.languages = before ++ [l] ++ after := by rw [hr, List.append_assoc]; rfl
    rw [List.forall_mem_cons, ← ih hr']
    constructor
    · exact find?_of_selectFrom_own_names hr
    · rintro ⟨hfind, h⟩
      rw [List.map_cons, selectFrom, hfind]
      have hnew : ¬ before.any (·.name = l.name) = true := by
        simpa using own_name_not_mem hnames hr
      exact (if_neg hnew).trans h

/-- A language is selected by its own name exactly if the name has no blanks around it and no
language before it differs in the case of letters only. All names together select the whole
registry exactly if each one selects its own language. -/
theorem select_own_names_iff (added : List Language) :
    (∀ before l after, (withLanguages added).languages = before ++ l :: after →
      ((withLanguages added).select [l.name] = .ok ⟨[l]⟩ ↔
        Text.trimmed l.name = l.name ∧ ∀ k ∈ before, sameName k.name l.name = false)) ∧
    ((withLanguages added).select (withLanguages added).names = .ok (withLanguages added) ↔
      ∀ l ∈ (withLanguages added).languages, (withLanguages added).select [l.name] = .ok ⟨[l]⟩) := by
  have hnames := nodup_names_withLanguages added
  generalize withLanguages added = r at hnames
  constructor
  · intro before l after hr
    rw [select_own_name_iff]
    exact find?_own_name_iff hnames hr
  · simp only [select_own_name_iff]
    exact selectFrom_own_names_iff hnames (List.nil_append r.languages).symm

/-- Lua is found by its name, and so is each of the languages beside it. -/
theorem select_own_names_lua :
    (withLanguages [⟨"lua", []⟩]).select ["lua"] = .ok ⟨[⟨"lua", []⟩]⟩ ∧
      (withLanguages [⟨"lua", []⟩]).select ["python", "c", "lua"] =
        .ok (withLanguages [⟨"lua", []⟩]) := by
  have hown := select_own_names_iff [⟨"lua", []⟩]
  have hlua := (hown.1 [.python, .c] ⟨"lua", []⟩ [] rfl).2 (by decide +kernel)
  have hc := (hown.1 [.python] .c [⟨"lua", []⟩] rfl).2 (by decide +kernel)
  have hpython := (hown.1 [] .python [.c, ⟨"lua", []⟩] rfl).2 (by decide +kernel)
  refine ⟨hlua, hown.2.2 fun l hl => ?_⟩
  have hlanguages : (withLanguages [⟨"lua", []⟩]).languages = [.python, .c, ⟨"lua", []⟩] := rfl
  rw [hlanguages] at hl
  have hcases : l = .python ∨ l = .c ∨ l = ⟨"lua", []⟩ := by simpa using hl
  rcases hcases with rfl | rfl | rfl
  · exact hpython
  · exact hc
  · exact hlua

/-- A language whose name differs from a built-in one in a letter's case selects that one, and one
with blanks around its name is unknown. -/
theorem select_shadowed_name :
    ⟨"Python", []⟩ ∈ (withLanguages [⟨"Python", []⟩]).languages ∧
    (withLanguages [⟨"Python", []⟩]).select ["Python"] = .ok ⟨[.python]⟩ ∧
    (withLanguages [⟨" lua ", []⟩]).select [" lua "] =
      .error (.unknownLanguage "lua" ["python", "c", " lua "]) := by
  refine ⟨?_, rfl, rfl⟩
  exact List.mem_of_getElem? (i := 2) rfl

end Registry

end ImportWeb
