import Mathlib.Data.List.Basic
import ImportWeb.Proofs.Style.Registration

/-!
Selections and the order of mention. A name selects the first language that is registered under it
in any case, so names that differ in case only select the same language, and a language comes at the
place of the first name that mentions it. Among the selected languages each of the names finds its
language again, so a second selection by the same names changes nothing.
-/

namespace ImportWeb

open Text

/-- A name with its ASCII letters in lower case. -/
def caseless (name : String) : List Char := name.toList.map Char.toLower

theorem sameName_iff {a b : String} : sameName a b = true ↔ caseless a = caseless b := beq_iff_eq

namespace Registry

variable {r narrow : Registry} {names done rest : List String} {languages chosen : List Language}
  {name other : String} {k l : Language}

/-! ### The first language of a name -/

/-- Some language is registered under a name, in any ASCII case. -/
def Knows (r : Registry) (name : String) : Prop := ∃ l ∈ r.languages, sameName l.name name = true

/-- The first language that is registered under a name. -/
def FirstNamed (r : Registry) (name : String) (l : Language) : Prop :=
  ∃ before after, r.languages = before ++ l :: after ∧ sameName l.name name = true ∧
    ∀ k ∈ before, ¬ sameName k.name name = true

theorem find?_eq_some_iff : r.find? name = some l ↔ r.FirstNamed name l := by
  rw [find?, List.find?_eq_some_iff_append]
  constructor
  · rintro ⟨hsame, before, after, hr, hbefore⟩
    exact ⟨before, after, hr, hsame, by simpa using hbefore⟩
  · rintro ⟨before, after, hr, hsame, hbefore⟩
    exact ⟨hsame, before, after, hr, by simpa using hbefore⟩

theorem find?_eq_none_iff : r.find? name = none ↔ ¬ r.Knows name := by
  simp [find?, List.find?_eq_none, Knows]

theorem Knows.exists_firstNamed (h : r.Knows name) : ∃ l, r.FirstNamed name l := by
  have hsome : r.find? name ≠ none := fun hnone => find?_eq_none_iff.1 hnone h
  obtain ⟨l, hl⟩ := Option.ne_none_iff_exists'.1 hsome
  exact ⟨l, find?_eq_some_iff.1 hl⟩

namespace FirstNamed

theorem caseless_eq (h : r.FirstNamed name l) : caseless l.name = caseless name := by
  obtain ⟨before, after, hr, hsame, hbefore⟩ := h
  exact sameName_iff.1 hsame

/-- Names that differ in case only have the same first language. -/
theorem congr (h : r.FirstNamed name l) (hcase : caseless name = caseless other) :
    r.FirstNamed other l := by
  simpa only [FirstNamed, sameName_iff, hcase] using h

theorem eq_of_caseless (hk : r.FirstNamed name k) (hl : r.FirstNamed other l)
    (hcase : caseless k.name = caseless l.name) : k = l := by
  have hnames : caseless name = caseless other := by rw [← hk.caseless_eq, hcase, hl.caseless_eq]
  have hk := find?_eq_some_iff.2 (hk.congr hnames)
  rw [find?_eq_some_iff.2 hl] at hk
  exact (Option.some.inj hk).symm

theorem unique (hk : r.FirstNamed name k) (hl : r.FirstNamed name l) : k = l :=
  hk.eq_of_caseless hl (by rw [hk.caseless_eq, hl.caseless_eq])

end FirstNamed

/-! ### The order of mention -/

/-- The place of the first name that mentions a language. -/
def firstMention (names : List String) (l : Language) : Nat :=
  names.findIdx fun name => sameName l.name (trimmed name)

/-- The first languages of some names, which have blanks around them, in the order of their first
mention. -/
structure Mentions (r : Registry) (names : List String) (languages : List Language) : Prop where
  mem_iff : ∀ l, l ∈ languages ↔ ∃ name ∈ names, r.FirstNamed (trimmed name) l
  ordered : languages.Pairwise fun k l => firstMention names k < firstMention names l

theorem firstMention_lt (hname : name ∈ names) (h : r.FirstNamed (trimmed name) l) :
    firstMention names l < names.length :=
  List.findIdx_lt_length.2 ⟨name, hname, sameName_iff.2 h.caseless_eq⟩

theorem firstMention_concat (h : firstMention names l < names.length) (name : String) :
    firstMention (names ++ [name]) l = firstMention names l := by
  rw [firstMention] at h ⊢
  rw [List.findIdx_append, if_pos h, firstMention]

theorem firstMention_congr (h : caseless k.name = caseless l.name) (names : List String) :
    firstMention names k = firstMention names l := by
  have hsame (name : String) : sameName k.name name = sameName l.name name :=
    Bool.eq_iff_iff.2 (by rw [sameName_iff, sameName_iff, h])
  simp only [firstMention, hsame]

theorem mentions_nil (r : Registry) : r.Mentions [] [] := ⟨by simp, .nil⟩

namespace Mentions

theorem firstMention_lt (h : r.Mentions names languages) (hl : l ∈ languages) :
    firstMention names l < names.length := by
  obtain ⟨name, hname, hfirst⟩ := (h.mem_iff l).1 hl
  exact Registry.firstMention_lt hname hfirst

/-- No two languages that are selected have the same name in any case. -/
theorem distinct (h : r.Mentions names languages) :
    languages.Pairwise fun k l => sameName k.name l.name = false := by
  refine h.ordered.imp fun {k l} hlt => ?_
  by_contra hsame
  rw [Bool.not_eq_false, sameName_iff] at hsame
  rw [firstMention_congr hsame] at hlt
  exact Nat.lt_irrefl _ hlt

theorem any_name_iff (h : r.Mentions names languages) (hl : r.FirstNamed (trimmed name) l) :
    languages.any (·.name = l.name) = true ↔ l ∈ languages := by
  simp only [List.any_eq_true, decide_eq_true_eq]
  constructor
  · rintro ⟨k, hk, hname⟩
    obtain ⟨other, -, hfirst⟩ := (h.mem_iff k).1 hk
    rwa [← hfirst.eq_of_caseless hl (by rw [hname])]
  · exact fun hmem => ⟨l, hmem, rfl⟩

/-- A further name does not change the order. -/
theorem ordered_concat (h : r.Mentions names languages) (name : String) :
    languages.Pairwise fun k l =>
      firstMention (names ++ [name]) k < firstMention (names ++ [name]) l := by
  refine h.ordered.imp_of_mem fun {j k} hj hk hlt => ?_
  rwa [firstMention_concat (h.firstMention_lt hj), firstMention_concat (h.firstMention_lt hk)]

/-- A name whose language has been mentioned adds none. -/
theorem again (h : r.Mentions names languages) (hl : r.FirstNamed (trimmed name) l)
    (hmem : l ∈ languages) : r.Mentions (names ++ [name]) languages := by
  constructor
  case mem_iff =>
    intro k
    have hnew : r.FirstNamed (trimmed name) k → k ∈ languages := fun hk => hk.unique hl ▸ hmem
    rw [h.mem_iff] at hnew ⊢
    simp only [List.mem_append, List.mem_singleton, or_and_right, exists_or, exists_eq_left]
    exact ⟨.inl, fun hk => hk.elim id hnew⟩
  case ordered => exact h.ordered_concat name

/-- A name whose language has not been mentioned adds it at the end. -/
theorem concat (h : r.Mentions names languages) (hl : r.FirstNamed (trimmed name) l)
    (hnew : l ∉ languages) : r.Mentions (names ++ [name]) (languages ++ [l]) := by
  constructor
  case mem_iff =>
    intro k
    have hlast : k = l ↔ r.FirstNamed (trimmed name) k :=
      ⟨fun hk => hk ▸ hl, fun hk => hk.unique hl⟩
    simp only [List.mem_append, List.mem_singleton, or_and_right, exists_or, exists_eq_left,
      h.mem_iff, hlast]
  case ordered =>
    have hmention : ¬ firstMention names l < names.length := by
      rw [firstMention, List.findIdx_lt_length]
      rintro ⟨other, hother, hsame⟩
      rw [sameName_iff, hl.caseless_eq] at hsame
      exact hnew ((h.mem_iff l).2 ⟨other, hother, hl.congr hsame⟩)
    have hlast : names.length ≤ firstMention (names ++ [name]) l := by
      rw [firstMention] at hmention ⊢
      rw [List.findIdx_append, if_neg hmention]
      exact Nat.le_add_left _ _
    refine List.pairwise_append.2 ⟨h.ordered_concat name, List.pairwise_singleton _ _, ?_⟩
    intro k hk j hj
    rw [List.mem_singleton.1 hj, firstMention_concat (h.firstMention_lt hk)]
    exact Nat.lt_of_lt_of_le (h.firstMention_lt hk) hlast

/-- Among the selected languages a name finds the same one again. -/
theorem firstNamed (h : r.Mentions names narrow.languages) (hname : name ∈ names)
    (hl : r.FirstNamed (trimmed name) l) : narrow.FirstNamed (trimmed name) l := by
  obtain ⟨before, after, hsplit⟩ := List.append_of_mem ((h.mem_iff l).2 ⟨name, hname, hl⟩)
  refine ⟨before, after, hsplit, sameName_iff.2 hl.caseless_eq, fun k hk hsame => ?_⟩
  have hdistinct := h.distinct
  rw [hsplit, List.pairwise_append] at hdistinct
  have hdiffers := hdistinct.2.2 k hk l List.mem_cons_self
  rw [sameName_iff, ← hl.caseless_eq, ← sameName_iff] at hsame
  rw [hsame] at hdiffers
  cases hdiffers

end Mentions

/-! ### Selecting -/

/-- The names that are left extend what has been selected by those before them. -/
theorem mentions_selectFrom (h : r.Mentions done chosen)
    (hknown : ∀ name ∈ rest, r.Knows (trimmed name)) :
    ∃ narrow, r.selectFrom chosen rest = .ok narrow ∧
      r.Mentions (done ++ rest) narrow.languages := by
  induction rest generalizing done chosen with
  | nil => exact ⟨⟨chosen⟩, rfl, by rwa [List.append_nil]⟩
  | cons name rest ih =>
    obtain ⟨hname, hrest⟩ := List.forall_mem_cons.1 hknown
    obtain ⟨l, hl⟩ := hname.exists_firstNamed
    rw [selectFrom, find?_eq_some_iff.2 hl, List.append_cons]
    by_cases hmem : l ∈ chosen
    · simpa only [if_pos ((h.any_name_iff hl).2 hmem)] using ih (h.again hl hmem) hrest
    · simpa only [if_neg (mt (h.any_name_iff hl).1 hmem)] using ih (h.concat hl hmem) hrest

/-- The first name under which no language is registered decides the error. -/
theorem selectFrom_of_unknown (hdone : ∀ name ∈ done, r.Knows (trimmed name))
    (hname : ¬ r.Knows (trimmed name)) (chosen : List Language) (rest : List String) :
    r.selectFrom chosen (done ++ name :: rest) =
      .error (.unknownLanguage (trimmed name) r.names) := by
  induction done generalizing chosen with
  | nil => rw [List.nil_append, selectFrom, find?_eq_none_iff.2 hname]
  | cons known done ih =>
    obtain ⟨hknown, hdone⟩ := List.forall_mem_cons.1 hdone
    obtain ⟨l, hl⟩ := hknown.exists_firstNamed
    rw [List.cons_append, selectFrom, find?_eq_some_iff.2 hl]
    simp only [ih hdone, ite_self]

/-- A selection depends on what the names find only. -/
theorem selectFrom_congr (h : ∀ name ∈ names, ∃ l, r.FirstNamed (trimmed name) l ∧
      narrow.FirstNamed (trimmed name) l) (chosen : List Language) :
    narrow.selectFrom chosen names = r.selectFrom chosen names := by
  induction names generalizing chosen with
  | nil => rfl
  | cons name names ih =>
    obtain ⟨⟨l, hl, hnarrow⟩, hnames⟩ := List.forall_mem_cons.1 h
    rw [selectFrom, selectFrom, find?_eq_some_iff.2 hl, find?_eq_some_iff.2 hnarrow]
    simp only [ih hnames]

/-- A selection by names that are all known holds the first language of each of them, once and in
the order of their first mention, and selecting from it by the same names gives it back. Otherwise
the first name that is not known is the error, together with all names there are. -/
theorem select_projects (r : Registry) (names : List String) :
    ((∀ name ∈ names, r.Knows (trimmed name)) →
      ∃ narrow, r.select names = .ok narrow ∧ r.Mentions names narrow.languages ∧
        (narrow.languages.Pairwise fun k l => sameName k.name l.name = false) ∧
        narrow.select names = .ok narrow) ∧
    ∀ done name rest, names = done ++ name :: rest → (∀ name ∈ done, r.Knows (trimmed name)) →
      ¬ r.Knows (trimmed name) →
        r.select names = .error (.unknownLanguage (trimmed name) r.names) ∧
        (StyleError.unknownLanguage (trimmed name) r.names).message =
          "unknown import rule-set `" ++ trimmed name ++ "` (available: " ++
            ", ".intercalate (r.languages.map Language.name) ++ ")" := by
  constructor
  · intro hknown
    obtain ⟨narrow, hnarrow, hmentions⟩ := mentions_selectFrom r.mentions_nil hknown
    refine ⟨narrow, hnarrow, hmentions, hmentions.distinct, ?_⟩
    rw [select, selectFrom_congr (r := r), hnarrow]
    intro name hname
    obtain ⟨l, hl⟩ := (hknown name hname).exists_firstNamed
    exact ⟨l, hl, hmentions.firstNamed hname hl⟩
  · rintro done name rest rfl hdone hname
    exact ⟨selectFrom_of_unknown hdone hname [] rest, rfl⟩

/-- Two of three names mention the same language, in other cases and with blanks around one; of two
names that are unknown the first one is the error. -/
theorem select_projects_lua :
    let r := withLanguages [⟨"lua", []⟩]
    let lua : Language := ⟨"lua", []⟩
    r.select [" LUA ", "python", "Lua"] = .ok ⟨[lua, .python]⟩ ∧
      r.Mentions [" LUA ", "python", "Lua"] [lua, .python] ∧
      select ⟨[lua, .python]⟩ [" LUA ", "python", "Lua"] = .ok ⟨[lua, .python]⟩ ∧
      r.select ["C", " cobol ", "ada"] =
        .error (.unknownLanguage "cobol" ["python", "c", "lua"]) := by
  intro r lua
  have hlanguages : r.languages = [.python, .c, lua] := rfl
  have hselect : r.select [" LUA ", "python", "Lua"] = .ok ⟨[lua, .python]⟩ := rfl
  have hlua : lua ∈ r.languages := by simp [hlanguages]
  have hpython : Language.python ∈ r.languages := by simp [hlanguages]
  have hc : Language.c ∈ r.languages := by simp [hlanguages]
  have hknown : ∀ name ∈ [" LUA ", "python", "Lua"], r.Knows (trimmed name) := by
    simp only [List.forall_mem_cons]
    exact ⟨⟨lua, hlua, by decide⟩, ⟨.python, hpython, by decide⟩, ⟨lua, hlua, by decide⟩,
      List.forall_mem_nil _⟩
  have hunknown : ¬ r.Knows (trimmed " cobol ") := find?_eq_none_iff.1 rfl
  obtain ⟨narrow, hnarrow, hmentions, -, hagain⟩ :=
    (select_projects r [" LUA ", "python", "Lua"]).1 hknown
  obtain rfl : narrow = ⟨[lua, .python]⟩ := Except.ok.inj (hnarrow.symm.trans hselect)
  have herror := (select_projects r ["C", " cobol ", "ada"]).2 ["C"] " cobol " ["ada"] rfl
    (by simpa using ⟨Language.c, hc, rfl⟩) hunknown
  exact ⟨hselect, hmentions, hagain, herror.1⟩

end Registry

end ImportWeb
