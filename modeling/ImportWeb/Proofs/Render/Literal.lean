import Mathlib.Data.List.Infix
import ImportWeb.Proofs.Json.Spelling

/-!
Cutting a script at a mark of its code. A mark counts outside of string literals only, so the scan
keeps track of the quotes. JSON is code that leaves all its literals, and outside of them it has
only characters of its own: a mark that starts with another one is never met inside it.
-/

namespace ImportWeb.Render.Literal

/-! ### The scan -/

/-- Where the next character of a script stands. -/
inductive Place where
  | code
  | text
  | escaped
  deriving DecidableEq, Repr

namespace Place

def next : Place → Char → Place
  | code, c => if c = '"' then text else code
  | text, c => if c = '"' then code else if c = '\\' then escaped else text
  | escaped, _ => text

def run (place : Place) (s : List Char) : Place := s.foldl next place

theorem run_append (place : Place) (s t : List Char) :
    run place (s ++ t) = run (run place s) t := List.foldl_append

end Place

/-- The texts before and after the first mark in the code, where `before` has been read. -/
def cutFrom (mark : List Char) (place : Place) (before : List Char) :
    List Char → Option (List Char × List Char)
  | [] => none
  | c :: rest =>
    if place = .code ∧ mark.isPrefixOf (c :: rest) then
      some (before.reverse, (c :: rest).drop mark.length)
    else cutFrom mark (place.next c) (c :: before) rest

def cut? (mark s : List Char) : Option (List Char × List Char) := cutFrom mark .code [] s

/-- What stands between a mark and the end of the call that it opens. -/
def argument? (opening script : List Char) : Option (List Char) := do
  let (_, rest) ← cut? opening script
  let (argument, _) ← cut? ");".toList rest
  return argument

/-! ### Texts without a mark -/

/-- No mark starts in a text, whatever comes after it. -/
def passes (mark : List Char) : Place → List Char → Bool
  | _, [] => true
  | place, c :: rest =>
    (place != .code || !(mark.isPrefixOf (c :: rest) || (c :: rest).isPrefixOf mark)) &&
      passes mark (place.next c) rest

variable {mark s t : List Char} {place : Place} {c : Char}

theorem cutFrom_append (h : passes mark place s = true) (before t : List Char) :
    cutFrom mark place before (s ++ t) =
      cutFrom mark (place.run s) (s.reverse ++ before) t := by
  induction s generalizing place before with
  | nil => rfl
  | cons c s ih =>
    rw [passes, Bool.and_eq_true] at h
    obtain ⟨hhere, hlater⟩ := h
    have hno : ¬ (place = .code ∧ mark.isPrefixOf (c :: (s ++ t))) := by
      rintro ⟨rfl, hmark⟩
      have hmark := List.isPrefixOf_iff_prefix.1 hmark
      have hwithin : c :: s <+: c :: (s ++ t) := List.prefix_append (c :: s) t
      rcases List.prefix_or_prefix_of_prefix hmark hwithin with h | h
      · simp [List.isPrefixOf_iff_prefix.2 h] at hhere
      · simp [List.isPrefixOf_iff_prefix.2 h] at hhere
    rw [List.cons_append, cutFrom, if_neg hno, ih hlater]
    simp [Place.run]

theorem cutFrom_mark (h : mark ≠ []) (before t : List Char) :
    cutFrom mark .code before (mark ++ t) = some (before.reverse, t) := by
  obtain ⟨c, rest, rfl⟩ := List.exists_cons_of_ne_nil h
  have hmark : (c :: rest).isPrefixOf (c :: (rest ++ t)) :=
    List.isPrefixOf_iff_prefix.2 (List.prefix_append (c :: rest) t)
  rw [List.cons_append, cutFrom, if_pos ⟨rfl, hmark⟩, ← List.cons_append, List.drop_left]

theorem passes_append (hs : passes mark place s = true)
    (ht : passes mark (place.run s) t = true) : passes mark place (s ++ t) = true := by
  induction s generalizing place with
  | nil => exact ht
  | cons c s ih =>
    rw [passes, Bool.and_eq_true] at hs
    obtain ⟨hhere, hlater⟩ := hs
    rw [List.cons_append, passes, Bool.and_eq_true]
    refine ⟨?_, ih hlater ht⟩
    simp only [Bool.or_eq_true, Bool.not_eq_true', Bool.or_eq_false_iff] at hhere ⊢
    refine hhere.imp id fun ⟨hmark, hrest⟩ => ?_
    have hwithin : c :: s <+: c :: (s ++ t) := List.prefix_append (c :: s) t
    simp only [← Bool.not_eq_true, List.isPrefixOf_iff_prefix] at hmark hrest ⊢
    refine ⟨fun h => ?_, fun h => hrest (hwithin.trans h)⟩
    rcases List.prefix_or_prefix_of_prefix h hwithin with h | h
    · exact hmark h
    · exact hrest h

/-- A text leads from one place to another one without starting a mark. -/
structure Crosses (mark : List Char) (start : Place) (s : List Char) (stop : Place) : Prop where
  passes : passes mark start s = true
  run : start.run s = stop

instance (mark : List Char) (start : Place) (s : List Char) (stop : Place) :
    Decidable (Crosses mark start s stop) :=
  decidable_of_iff (passes mark start s = true ∧ start.run s = stop)
    ⟨fun ⟨hpasses, hrun⟩ => ⟨hpasses, hrun⟩, fun ⟨hpasses, hrun⟩ => ⟨hpasses, hrun⟩⟩

namespace Crosses

variable {start stop : Place}

theorem nil (mark : List Char) (place : Place) : Crosses mark place [] place := ⟨rfl, rfl⟩

theorem append (hs : Crosses mark start s place) (ht : Crosses mark place t stop) :
    Crosses mark start (s ++ t) stop where
  passes := passes_append hs.passes (by rw [hs.run]; exact ht.passes)
  run := by rw [Place.run_append, hs.run, ht.run]

theorem cons (hc : Crosses mark start [c] place) (hs : Crosses mark place s stop) :
    Crosses mark start (c :: s) stop := hc.append hs

theorem cutFrom (h : Crosses mark start s stop) (before t : List Char) :
    cutFrom mark start before (s ++ t) = Literal.cutFrom mark stop (s.reverse ++ before) t := by
  rw [cutFrom_append h.passes, h.run]

end Crosses

/-- An argument is cut out of a script exactly, if neither mark starts before its place. -/
theorem argument?_eq {opening before argument : List Char} (ho : opening ≠ [])
    (hbefore : Crosses opening .code before .code)
    (hargument : Crosses ");".toList .code argument .code) (after : List Char) :
    argument? opening (before ++ (opening ++ (argument ++ (");".toList ++ after)))) =
      some argument := by
  have hopening : cut? opening (before ++ (opening ++ (argument ++ (");".toList ++ after)))) =
      some (before, argument ++ (");".toList ++ after)) := by
    rw [cut?, hbefore.cutFrom, cutFrom_mark ho]
    simp
  have hend : cut? ");".toList (argument ++ (");".toList ++ after)) = some (argument, after) := by
    rw [cut?, hargument.cutFrom, cutFrom_mark (by decide)]
    simp
  rw [argument?, hopening, Option.bind_eq_bind, Option.bind_some]
  dsimp only
  rw [hend]
  rfl

/-! ### JSON as code -/

theorem crosses_inside {stop : Place} (h : place ≠ .code) (hc : place.next c = stop) :
    Crosses mark place [c] stop :=
  ⟨by simp [passes, h], hc⟩

/-- Inside of a literal only a quote and a backslash matter. -/
theorem crosses_text (h : ∀ c ∈ s, c ≠ '"' ∧ c ≠ '\\') : Crosses mark .text s .text := by
  induction s with
  | nil => exact .nil mark .text
  | cons c s ih =>
    obtain ⟨hc, hs⟩ := List.forall_mem_cons.1 h
    have hnext : Place.text.next c = .text := by simp [Place.next, hc]
    exact .cons (crosses_inside (by decide) hnext) (ih hs)

open Json

theorem crosses_letter {w : List Char} (h : Letter c w) : Crosses mark .text w .text := by
  cases h with
  | plain quote slash =>
    refine crosses_text fun x hx => ?_
    obtain rfl := List.mem_singleton.1 hx
    exact ⟨quote, slash⟩
  | @short d =>
    exact .cons (crosses_inside (by decide) (rfl : Place.text.next '\\' = .escaped))
      (crosses_inside (by decide) rfl)
  | @code i j k l h =>
    refine .cons (crosses_inside (by decide) (rfl : Place.text.next '\\' = .escaped))
      (.cons (crosses_inside (by decide) rfl) ?_)
    refine crosses_text fun x hx => ?_
    have hsome := isSome_hexValue? h x hx
    constructor <;> rintro rfl <;> cases hsome

theorem crosses_letters (h : Letters s t) : Crosses mark .text t .text := by
  induction h with
  | nil => exact .nil mark .text
  | cons h _ ih => exact (crosses_letter h).append ih

/-- The characters of JSON outside of strings, digits apart. -/
def structural : List Char := "[]\x7b\x7d,:- \n\r\t\"nultrefas".toList

/-- A mark that starts with a character which JSON has in strings only. -/
structure Foreign (mark : List Char) : Prop where
  ne_nil : mark ≠ []
  other : ∀ c ∈ mark.head?, c ∉ structural ∧ c.isDigit = false

namespace Foreign

theorem of_head (h : mark.head? = some c) (hc : c ∉ structural) (hdigit : c.isDigit = false) :
    Foreign mark where
  ne_nil := by
    rintro rfl
    cases h
  other := by
    intro d hd
    obtain rfl : c = d := Option.some.inj (h.symm.trans hd)
    exact ⟨hc, hdigit⟩

theorem crosses_code (hm : Foreign mark) (hc : c ∈ structural ∨ c.isDigit = true)
    (hnext : Place.code.next c = place) : Crosses mark .code [c] place := by
  obtain ⟨m, rest, rfl⟩ := List.exists_cons_of_ne_nil hm.ne_nil
  obtain ⟨hstructural, hdigit⟩ := hm.other m rfl
  have hne : m ≠ c := by
    rintro rfl
    rcases hc with hc | hc
    · exact hstructural hc
    · rw [hdigit] at hc
      cases hc
  exact ⟨by simp [passes, List.isPrefixOf, hne, hne.symm], hnext⟩

theorem crosses_quote (hm : Foreign mark) : Crosses mark .code ['"'] .text :=
  hm.crosses_code (.inl (by decide)) rfl

theorem crosses_unquoted (hm : Foreign mark)
    (h : ∀ c ∈ s, (c ∈ structural ∨ c.isDigit = true) ∧ c ≠ '"') :
    Crosses mark .code s .code := by
  induction s with
  | nil => exact .nil mark .code
  | cons c s ih =>
    obtain ⟨⟨hc, hquote⟩, hs⟩ := List.forall_mem_cons.1 h
    have hnext : Place.code.next c = .code := by simp [Place.next, hquote]
    exact .cons (hm.crosses_code hc hnext) (ih hs)

theorem crosses_word (hm : Foreign mark)
    (h : s.all fun c => decide ((c ∈ structural ∨ c.isDigit = true) ∧ c ≠ '"')) :
    Crosses mark .code s .code :=
  hm.crosses_unquoted fun c hc => of_decide_eq_true (List.all_eq_true.1 h c hc)

theorem crosses_literal (hm : Foreign mark) (h : Letters s t) (u : List Char)
    (hu : Crosses mark .code u .code) : Crosses mark .code ('"' :: (t ++ '"' :: u)) .code :=
  .cons hm.crosses_quote ((crosses_letters h).append (.cons (crosses_inside (by decide) rfl) hu))

theorem crosses_char (hm : Foreign mark) (hc : c ∈ structural) (hquote : c ≠ '"') :
    Crosses mark .code [c] .code := by
  refine hm.crosses_unquoted fun x hx => ?_
  obtain rfl := List.mem_singleton.1 hx
  exact ⟨.inl hc, hquote⟩

theorem crosses_blank (hm : Foreign mark) {w : List Char} (hw : Blank w) :
    Crosses mark .code w .code := by
  refine hm.crosses_unquoted fun c hc => ?_
  have hspace := hw c hc
  simp only [isSpace, Bool.or_eq_true, decide_eq_true_eq] at hspace
  rcases hspace with ((rfl | rfl) | rfl) | rfl <;> decide

theorem crosses_integerChars (hm : Foreign mark) (n : Int) :
    Crosses mark .code (integerChars n) .code := by
  refine hm.crosses_unquoted fun c hc => ?_
  have hcases : c = '-' ∨ c.isDigit = true := by
    unfold integerChars at hc
    split at hc
    · exact (List.mem_cons.1 hc).imp id Text.isDigit_of_mem_decimal
    · exact .inr (Text.isDigit_of_mem_decimal hc)
  rcases hcases with rfl | hdigit
  · decide
  · refine ⟨.inr hdigit, ?_⟩
    rintro rfl
    cases hdigit

theorem crosses_named (hm : Foreign mark) {key : String} {k : List Char} (hk : Named key k) :
    Crosses mark .code k .code := by
  cases hk with
  | mk h hv hw =>
    have hcolon := hm.crosses_char (c := ':') (by decide) (by decide)
    exact hm.crosses_literal h _
      ((hm.crosses_blank hv).append (hcolon.append (hm.crosses_blank hw)))

/-- JSON leaves all its literals and has no foreign mark outside of them. -/
theorem crosses (hm : Foreign mark) {p : Part} (h : Spells p t) : Crosses mark .code t .code := by
  have hchar (c : Char) (hc : c ∈ structural) (hquote : c ≠ '"') := hm.crosses_char hc hquote
  induction h with
  | null => exact hm.crosses_word (by decide)
  | bool b => cases b <;> exact hm.crosses_word (by decide)
  | integer n => exact hm.crosses_integerChars n
  | string h => exact hm.crosses_literal h [] (.nil mark .code)
  | noItems hw =>
    exact .cons (hchar '[' (by decide) (by decide))
      ((hm.crosses_blank hw).append (hchar ']' (by decide) (by decide)))
  | array hw _ ih =>
    exact .cons (hchar '[' (by decide) (by decide)) ((hm.crosses_blank hw).append ih)
  | noFields hw =>
    exact .cons (hchar '{' (by decide) (by decide))
      ((hm.crosses_blank hw).append (hchar '}' (by decide) (by decide)))
  | object hw _ ih =>
    exact .cons (hchar '{' (by decide) (by decide)) ((hm.crosses_blank hw).append ih)
  | lastItem _ hw ih =>
    exact ih.append ((hm.crosses_blank hw).append (hchar ']' (by decide) (by decide)))
  | item _ hv hw _ ih ihl =>
    exact ih.append ((hm.crosses_blank hv).append
      (.cons (hchar ',' (by decide) (by decide)) ((hm.crosses_blank hw).append ihl)))
  | lastField hk _ hw ih =>
    exact (hm.crosses_named hk).append
      (ih.append ((hm.crosses_blank hw).append (hchar '}' (by decide) (by decide))))
  | field hk _ hv hw _ ih ihl =>
    exact (hm.crosses_named hk).append (ih.append ((hm.crosses_blank hv).append
      (.cons (hchar ',' (by decide) (by decide)) ((hm.crosses_blank hw).append ihl))))

end Foreign

end ImportWeb.Render.Literal
