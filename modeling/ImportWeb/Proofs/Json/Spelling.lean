import ImportWeb.Json.Parser

/-!
Spellings of JSON values. One value has many texts: blanks may stand between its tokens, and a
character of a string stands for itself or is escaped. The reader takes every spelling of a value
back to that value, whatever text comes after it.
-/

namespace ImportWeb.Json

/-! ### Spellings -/

/-- What a backslash and one more character stand for. -/
def shortEscape? : Char → Option Char
  | '"' => some '"'
  | '\\' => some '\\'
  | '/' => some '/'
  | 'b' => some '\x08'
  | 'f' => some '\x0c'
  | 'n' => some '\n'
  | 'r' => some '\r'
  | 't' => some '\t'
  | _ => none

/-- The ways to write one character of a string. -/
inductive Letter (c : Char) : List Char → Prop where
  | plain (quote : c ≠ '"') (slash : c ≠ '\\') (printed : ¬ c.toNat < 0x20) : Letter c [c]
  | short {d : Char} (h : shortEscape? d = some c) : Letter c ['\\', d]
  | code {i j k l : Char} (h : readHex4? [i, j, k, l] = some (c.toNat, [])) :
    Letter c ['\\', 'u', i, j, k, l]

/-- The ways to write the characters of a string. -/
inductive Letters : List Char → List Char → Prop where
  | nil : Letters [] []
  | cons {c : Char} {s w t : List Char} (h : Letter c w) (hs : Letters s t) :
    Letters (c :: s) (w ++ t)

def Blank (w : List Char) : Prop := ∀ c ∈ w, isSpace c = true

/-- The ways to write the name of a field, up to its value. -/
inductive Named (key : String) : List Char → Prop where
  | mk {k v w : List Char} (h : Letters key.toList k) (hv : Blank v) (hw : Blank w) :
    Named key ('"' :: (k ++ '"' :: (v ++ ':' :: w)))

/-- What the reader reads at one time: a value, or the rest of an array or an object that has
at least one item or field left. -/
inductive Part where
  | value (j : Json)
  | items (l : List Json)
  | fields (l : List (String × Json))

/-- The ways to write a part. Numbers are integers here, each with one spelling. -/
inductive Spells : Part → List Char → Prop where
  | null : Spells (.value .null) "null".toList
  | bool (b : Bool) : Spells (.value (.bool b)) (if b then "true".toList else "false".toList)
  | integer (n : Int) : Spells (.value (.integer n)) (integerChars n)
  | string {s : String} {t : List Char} (h : Letters s.toList t) :
    Spells (.value (.string s)) ('"' :: (t ++ ['"']))
  | noItems {w : List Char} (hw : Blank w) : Spells (.value (.array [])) ('[' :: (w ++ [']']))
  | array {l : List Json} {w t : List Char} (hw : Blank w) (h : Spells (.items l) t) :
    Spells (.value (.array l)) ('[' :: (w ++ t))
  | noFields {w : List Char} (hw : Blank w) : Spells (.value (.object [])) ('{' :: (w ++ ['}']))
  | object {l : List (String × Json)} {w t : List Char} (hw : Blank w)
    (h : Spells (.fields l) t) : Spells (.value (.object l)) ('{' :: (w ++ t))
  | lastItem {j : Json} {t w : List Char} (h : Spells (.value j) t) (hw : Blank w) :
    Spells (.items [j]) (t ++ (w ++ [']']))
  | item {j : Json} {l : List Json} {t v w u : List Char} (h : Spells (.value j) t)
    (hv : Blank v) (hw : Blank w) (hl : Spells (.items l) u) :
    Spells (.items (j :: l)) (t ++ (v ++ ',' :: (w ++ u)))
  | lastField {key : String} {j : Json} {k t w : List Char} (hk : Named key k)
    (h : Spells (.value j) t) (hw : Blank w) :
    Spells (.fields [(key, j)]) (k ++ (t ++ (w ++ ['}'])))
  | field {key : String} {j : Json} {l : List (String × Json)} {k t v w u : List Char}
    (hk : Named key k) (h : Spells (.value j) t) (hv : Blank v) (hw : Blank w)
    (hl : Spells (.fields l) u) :
    Spells (.fields ((key, j) :: l)) (k ++ (t ++ (v ++ ',' :: (w ++ u))))

variable {c : Char} {j : Json} {p : Part} {s t w rest : List Char}

/-! ### First characters -/

theorem blank_nil : Blank [] := fun _ h => nomatch h

theorem integerChars_cons (n : Int) :
    ∃ c s, integerChars n = c :: s ∧ (c = '-' ∨ c.isDigit = true) := by
  unfold integerChars
  split
  case isTrue => exact ⟨'-', _, rfl, .inl rfl⟩
  case isFalse =>
    obtain ⟨c, s, h⟩ := List.exists_cons_of_ne_nil (Text.decimal_ne_nil n.natAbs)
    exact ⟨c, s, h, .inr (Text.isDigit_of_mem_decimal (h ▸ List.mem_cons_self))⟩

/-- What no part starts with. -/
def notFirst : List Char := [' ', '\n', '\r', '\t', ']', '}', '/']

theorem Spells.exists_cons (h : Spells p t) : ∃ c s, t = c :: s ∧ c ∉ notFirst := by
  induction h with
  | null => exact ⟨'n', _, rfl, by decide⟩
  | bool b => cases b <;> exact ⟨_, _, rfl, by decide⟩
  | integer n =>
    obtain ⟨c, s, h, hc⟩ := integerChars_cons n
    refine ⟨c, s, h, fun hmem => ?_⟩
    have hno : ∀ c ∈ notFirst, c ≠ '-' ∧ c.isDigit = false := by simp [notFirst]
    rcases hc with rfl | hc
    · exact (hno _ hmem).1 rfl
    · rw [(hno _ hmem).2] at hc
      cases hc
  | string => exact ⟨'"', _, rfl, by decide⟩
  | noItems | array => exact ⟨'[', _, rfl, by decide⟩
  | noFields | object => exact ⟨'{', _, rfl, by decide⟩
  | lastItem h hw ih | item h hv hw hl ih _ =>
    obtain ⟨c, s, rfl, hc⟩ := ih
    exact ⟨c, _, rfl, hc⟩
  | lastField hk | field hk =>
    cases hk
    exact ⟨'"', _, rfl, by decide⟩

theorem skipSpace_blank (hw : Blank w) (s : List Char) : skipSpace (w ++ s) = skipSpace s :=
  List.dropWhile_append_of_pos hw

theorem skipSpace_cons (h : isSpace c = false) (s : List Char) : skipSpace (c :: s) = c :: s := by
  simp [skipSpace, h]

theorem skipSpace_blank_cons (hw : Blank w) (h : isSpace c = false) (s : List Char) :
    skipSpace (w ++ c :: s) = c :: s := by
  rw [skipSpace_blank hw, skipSpace_cons h]

theorem Spells.skipSpace_append (h : Spells p t) (s : List Char) :
    skipSpace (t ++ s) = t ++ s := by
  obtain ⟨c, t, rfl, hc⟩ := h.exists_cons
  refine skipSpace_cons ?_ (t ++ s)
  have hno : isSpace c = true → c ∈ notFirst := by
    simp only [isSpace, Bool.or_eq_true, decide_eq_true_eq]
    rintro (((rfl | rfl) | rfl) | rfl) <;> decide
  exact Bool.eq_false_iff.2 (mt hno hc)

theorem Spells.skipSpace_blank_append (h : Spells p t) (hw : Blank w) (s : List Char) :
    skipSpace (w ++ (t ++ s)) = t ++ s := by
  rw [skipSpace_blank hw, h.skipSpace_append]

/-! ### Strings -/

theorem isSome_hexValue? {i j k l : Char} {n : Nat} (h : readHex4? [i, j, k, l] = some (n, [])) :
    ∀ x ∈ [i, j, k, l], (hexValue? x).isSome := by
  unfold readHex4? at h
  cases hi : hexValue? i <;> cases hj : hexValue? j <;> cases hk : hexValue? k <;>
    cases hl : hexValue? l <;> simp_all

/-- A code of four digits stands for its character: no character has the code of a surrogate. -/
theorem readUnicode?_code {i j k l : Char} (h : readHex4? [i, j, k, l] = some (c.toNat, []))
    (s : List Char) : readUnicode? (i :: j :: k :: l :: s) = some (c, s) := by
  have hread : readHex4? (i :: j :: k :: l :: s) = some (c.toNat, s) := by
    unfold readHex4? at h ⊢
    cases hi : hexValue? i <;> cases hj : hexValue? j <;> cases hk : hexValue? k <;>
      cases hl : hexValue? l <;> simp_all
  have hvalid : c.toNat < 0xD800 ∨ 0xDFFF < c.toNat := by
    have := c.valid
    change c.toNat < 0xD800 ∨ 0xDFFF < c.toNat ∧ c.toNat < 0x110000 at this
    omega
  have hhigh : ¬ (0xD800 ≤ c.toNat ∧ c.toNat < 0xDC00) := by omega
  have hlow : ¬ (0xDC00 ≤ c.toNat ∧ c.toNat < 0xE000) := by omega
  simp [readUnicode?, hread, hhigh, hlow, Char.ofNat_toNat]

theorem readString?_letter (h : Letter c w) (fuel : Nat) (done s : List Char) :
    readString? (fuel + 1) done (w ++ s) = readString? fuel (c :: done) s := by
  cases h with
  | plain quote slash printed => simp [readString?, quote, slash, printed]
  | @short d h =>
    unfold shortEscape? at h
    split at h <;> cases h <;> rfl
  | code h =>
    simp only [List.cons_append, List.nil_append]
    rw [readString?]
    simp [readUnicode?_code h]

/-- Reading takes one unit of fuel for a character, so the length of the text is enough. -/
theorem readString?_letters (h : Letters s t) {fuel : Nat} (hf : t.length < fuel)
    (done rest : List Char) :
    readString? fuel done (t ++ '"' :: rest) = some (String.ofList (done.reverse ++ s), rest) := by
  induction h generalizing fuel done with
  | nil =>
    obtain ⟨fuel, rfl⟩ := Nat.exists_eq_add_one_of_ne_zero (Nat.ne_zero_of_lt hf)
    simp [readString?]
  | @cons c s w t h hs ih =>
    obtain ⟨fuel, rfl⟩ := Nat.exists_eq_add_one_of_ne_zero (Nat.ne_zero_of_lt hf)
    have hw : 0 < w.length := by cases h <;> simp
    rw [List.length_append] at hf
    rw [List.append_assoc, readString?_letter h, ih (by omega)]
    simp

theorem readString?_letters_length (h : Letters s t) (rest : List Char) :
    readString? ((t ++ '"' :: rest).length + 1) [] (t ++ '"' :: rest) =
      some (String.ofList s, rest) :=
  readString?_letters h (by rw [List.length_append, List.length_cons]; omega) [] rest

/-! ### Integers -/

/-- What may follow a number without becoming a part of it. -/
def Ends (s : List Char) : Prop :=
  ∀ c ∈ s.head?, c.isDigit = false ∧ c ≠ '.' ∧ c ≠ 'e' ∧ c ≠ 'E'

theorem ends_nil : Ends [] := fun _ h => nomatch h

theorem ends_cons (h : c ∈ [' ', '\n', '\r', '\t', ',', ']', '}']) (s : List Char) :
    Ends (c :: s) := by
  have hall : ∀ c ∈ [' ', '\n', '\r', '\t', ',', ']', '}'],
      c.isDigit = false ∧ c ≠ '.' ∧ c ≠ 'e' ∧ c ≠ 'E' := by simp
  intro d hd
  obtain rfl : c = d := Option.some.inj hd
  exact hall c h

theorem ends_blank (hw : Blank w) (h : Ends s) : Ends (w ++ s) := by
  cases w with
  | nil => exact h
  | cons c w =>
    have hc := hw c List.mem_cons_self
    simp only [isSpace, Bool.or_eq_true, decide_eq_true_eq] at hc
    refine ends_cons ?_ (w ++ s)
    rcases hc with ((rfl | rfl) | rfl) | rfl <;> decide

theorem readExponent?_ends (h : Ends s) : readExponent? s = some (0, s) := by
  cases s with
  | nil => rfl
  | cons c s =>
    obtain ⟨-, -, he, hE⟩ := h c rfl
    simp [readExponent?, he, hE]

theorem takeWhile_decimal (n : Nat) (h : Ends s) :
    (Text.decimal n ++ s).takeWhile Char.isDigit = Text.decimal n := by
  have hs : s.takeWhile Char.isDigit = [] := by
    cases s with
    | nil => rfl
    | cons c s => simp [(h c rfl).1]
  rw [List.takeWhile_append_of_pos fun c hc => Text.isDigit_of_mem_decimal hc, hs, List.append_nil]

/-- The digits after the sign of a number: no zero leads them. -/
theorem leading_zero (n : Nat) :
    ¬ ((Text.decimal n).head? = some '0' ∧ (Text.decimal n).length ≠ 1) := by
  rintro ⟨hhead, hlength⟩
  obtain rfl := Text.eq_zero_of_head?_decimal hhead
  exact hlength rfl

/-- A sign and the digits of a number that is not minus zero. -/
theorem readNumber?_signed (negative : Bool) (n : Nat) (hn : ¬ (negative = true ∧ n = 0))
    (h : Ends s) :
    readNumber? ((if negative then ['-'] else []) ++ (Text.decimal n ++ s)) =
      some (.integer (if negative then -n else n), s) := by
  obtain ⟨c, digits, hc⟩ := List.exists_cons_of_ne_nil (Text.decimal_ne_nil n)
  have hdigit : c.isDigit = true := Text.isDigit_of_mem_decimal (hc ▸ List.mem_cons_self)
  have hwhole := takeWhile_decimal n h
  unfold readNumber?
  split
  rename_i negative' text heq
  obtain ⟨rfl, rfl⟩ : negative = negative' ∧ Text.decimal n ++ s = text := by
    cases negative with
    | true => exact Prod.mk.inj heq
    | false =>
      rw [hc] at heq ⊢
      split at heq
      case h_1 hcons =>
        obtain ⟨rfl, -⟩ := List.cons.inj hcons
        cases hdigit
      case h_2 => exact Prod.mk.inj heq
  have hzero : ¬ ((Text.decimal n).head? = some '0' ∧ (Text.decimal n).length ≠ 1) :=
    leading_zero n
  have hempty : (Text.decimal n).isEmpty = false := by rw [hc]; rfl
  have hdrop : (Text.decimal n ++ s).drop (Text.decimal n).length = s := List.drop_left
  simp only [hwhole, hdrop, hempty, Bool.false_eq_true, if_false, if_neg hzero]
  split
  case h_1 => exact absurd rfl (h '.' rfl).2.1
  case h_2 =>
    simp only [Option.bind_eq_bind, Option.bind_some, readExponent?_ends h, Text.ofDecimal_decimal]
    rw [if_pos ⟨rfl, trivial, hn⟩]
    rfl

theorem readNumber?_integerChars (n : Int) (h : Ends s) :
    readNumber? (integerChars n ++ s) = some (.integer n, s) := by
  have hsigned := readNumber?_signed (decide (n < 0)) n.natAbs
    (by simp only [decide_eq_true_eq]; omega) h
  have hn : (if n < 0 then -(n.natAbs : Int) else n.natAbs) = n := by split <;> omega
  simp only [decide_eq_true_eq, hn] at hsigned
  rw [← hsigned, integerChars]
  split <;> rfl

theorem readValue?_number (h : c = '-' ∨ c.isDigit = true) (fuel : Nat) (s : List Char) :
    readValue? (fuel + 1) (c :: s) = readNumber? (c :: s) := by
  have hother : c ≠ '"' ∧ c ≠ '[' ∧ c ≠ '{' ∧ c ≠ 'n' ∧ c ≠ 't' ∧ c ≠ 'f' := by
    refine ⟨?_, ?_, ?_, ?_, ?_, ?_⟩ <;> rintro rfl <;> simp at h
  simp [readValue?, hother]

/-! ### Values -/

/-- The reader reads a part and leaves the rest. -/
def Part.Read (fuel : Nat) (text rest : List Char) : Part → Prop
  | .value j => readValue? fuel text = some (j, rest)
  | .items l => readItems? fuel text = some (l, rest)
  | .fields l => readFields? fuel text = some (l, rest)

theorem read_integer (n : Int) {fuel : Nat} (hr : Ends rest) :
    readValue? (fuel + 1) (integerChars n ++ rest) = some (.integer n, rest) := by
  obtain ⟨c, s, h, hc⟩ := integerChars_cons n
  have hread := readNumber?_integerChars n hr
  rw [h] at hread ⊢
  exact (readValue?_number hc fuel (s ++ rest)).trans hread

theorem read_array {l : List Json} {fuel : Nat} (h : Spells (.items l) t) (hw : Blank w)
    (hread : readItems? fuel (t ++ rest) = some (l, rest)) :
    readValue? (fuel + 1) ('[' :: (w ++ t) ++ rest) = some (.array l, rest) := by
  have hskip := h.skipSpace_blank_append hw rest
  obtain ⟨c, s, rfl, hc⟩ := h.exists_cons
  have hclose : c ≠ ']' := by
    rintro rfl
    exact hc (by decide)
  rw [List.cons_append, List.append_assoc, readValue?, hskip, List.cons_append]
  split
  case h_1 heq => exact absurd (List.cons.inj heq).1 hclose
  case h_2 => rw [← List.cons_append, hread]; rfl

theorem read_object {l : List (String × Json)} {fuel : Nat} (h : Spells (.fields l) t)
    (hw : Blank w) (hread : readFields? fuel (t ++ rest) = some (l, rest)) :
    readValue? (fuel + 1) ('{' :: (w ++ t) ++ rest) = some (.object l, rest) := by
  have hskip := h.skipSpace_blank_append hw rest
  obtain ⟨c, s, rfl, hc⟩ := h.exists_cons
  have hclose : c ≠ '}' := by
    rintro rfl
    exact hc (by decide)
  rw [List.cons_append, List.append_assoc, readValue?, hskip, List.cons_append]
  split
  case h_1 heq => exact absurd (List.cons.inj heq).1 hclose
  case h_2 => rw [← List.cons_append, hread]; rfl

theorem read_lastItem {fuel : Nat} (hread : readValue? fuel s = some (j, t))
    (ht : skipSpace t = ']' :: rest) : readItems? (fuel + 1) s = some ([j], rest) := by
  simp [readItems?, hread, ht]

theorem read_item {l : List Json} {fuel : Nat} (hread : readValue? fuel s = some (j, t))
    (ht : skipSpace t = ',' :: w) (hl : readItems? fuel (skipSpace w) = some (l, rest)) :
    readItems? (fuel + 1) s = some (j :: l, rest) := by
  simp [readItems?, hread, ht, hl]

section Field

variable {key : String} {k u : List Char} {fuel : Nat}

/-- A name as the reader takes it: a quoted text, a colon and blanks. -/
theorem Named.read (hk : Named key k) (s : List Char) :
    ∃ text after value, k ++ s = '"' :: text ∧
      readString? (text.length + 1) [] text = some (key, after) ∧
      skipSpace after = ':' :: value ∧ skipSpace value = skipSpace s := by
  cases hk with
  | @mk k v w hk hv hw =>
    have hread := readString?_letters_length hk (v ++ ':' :: (w ++ s))
    rw [String.ofList_toList] at hread
    refine ⟨k ++ '"' :: (v ++ ':' :: (w ++ s)), v ++ ':' :: (w ++ s), w ++ s, by simp, hread, ?_,
      skipSpace_blank hw s⟩
    exact skipSpace_blank_cons hv (by decide) _

theorem read_lastField (hk : Named key k) (hs : skipSpace s = s)
    (hread : readValue? fuel s = some (j, t)) (ht : skipSpace t = '}' :: rest) :
    readFields? (fuel + 1) (k ++ s) = some ([(key, j)], rest) := by
  obtain ⟨text, after, value, hname, htext, hafter, hvalue⟩ := hk.read s
  simp [readFields?, hname, htext, hafter, hvalue, hs, hread, ht]

theorem read_field {l : List (String × Json)} (hk : Named key k) (hs : skipSpace s = s)
    (hread : readValue? fuel s = some (j, t)) (ht : skipSpace t = ',' :: u)
    (hl : readFields? fuel (skipSpace u) = some (l, rest)) :
    readFields? (fuel + 1) (k ++ s) = some ((key, j) :: l, rest) := by
  obtain ⟨text, after, value, hname, htext, hafter, hvalue⟩ := hk.read s
  simp [readFields?, hname, htext, hafter, hvalue, hs, hread, ht, hl]

end Field

theorem Spells.exists_fuel (h : Spells p t) {fuel : Nat} (hf : t.length ≤ fuel) :
    ∃ n, fuel = n + 1 ∧ t.tail.length ≤ n := by
  obtain ⟨c, t, rfl, -⟩ := h.exists_cons
  rw [List.length_cons] at hf
  exact ⟨fuel - 1, by omega, by rw [List.tail_cons]; omega⟩

/-- Each part takes at most one unit of fuel for a character of its text. -/
theorem Spells.read (h : Spells p t) {fuel : Nat} (hf : t.length ≤ fuel) (hr : Ends rest) :
    p.Read fuel (t ++ rest) rest := by
  induction h generalizing fuel rest with
  | null =>
    obtain ⟨n, rfl, -⟩ := Spells.null.exists_fuel hf
    rfl
  | bool b =>
    obtain ⟨n, rfl, -⟩ := (Spells.bool b).exists_fuel hf
    cases b <;> rfl
  | integer n =>
    obtain ⟨n, rfl, -⟩ := (Spells.integer _).exists_fuel hf
    exact read_integer _ hr
  | string h =>
    obtain ⟨n, rfl, -⟩ := (Spells.string h).exists_fuel hf
    have hread := readString?_letters_length h rest
    rw [String.ofList_toList] at hread
    simp only [Part.Read, List.cons_append, List.append_assoc, List.nil_append, readValue?]
    rw [hread]
    rfl
  | noItems hw =>
    obtain ⟨n, rfl, -⟩ := (Spells.noItems hw).exists_fuel hf
    simp only [Part.Read, List.cons_append, List.append_assoc, List.nil_append, readValue?]
    rw [skipSpace_blank_cons hw (by decide)]
    rfl
  | array hw h ih =>
    obtain ⟨n, rfl, hn⟩ := (Spells.array hw h).exists_fuel hf
    rw [List.tail_cons, List.length_append] at hn
    exact read_array h hw (ih (by omega) hr)
  | noFields hw =>
    obtain ⟨n, rfl, -⟩ := (Spells.noFields hw).exists_fuel hf
    simp only [Part.Read, List.cons_append, List.append_assoc, List.nil_append, readValue?]
    rw [skipSpace_blank_cons hw (by decide)]
    rfl
  | object hw h ih =>
    obtain ⟨n, rfl, hn⟩ := (Spells.object hw h).exists_fuel hf
    rw [List.tail_cons, List.length_append] at hn
    exact read_object h hw (ih (by omega) hr)
  | @lastItem j t w h hw ih =>
    obtain ⟨n, rfl, -⟩ := (Spells.lastItem h hw).exists_fuel hf
    have hends : Ends (w ++ ']' :: rest) := ends_blank hw (ends_cons (by decide) rest)
    have hskip := skipSpace_blank_cons (c := ']') hw (by decide) rest
    have hlength : t.length ≤ n := by simp at hf; omega
    have hread := read_lastItem (ih hlength hends) hskip
    simpa [Part.Read] using hread
  | @item j l t v w u h hv hw hl ih ihl =>
    obtain ⟨n, rfl, -⟩ := (Spells.item h hv hw hl).exists_fuel hf
    have hends : Ends (v ++ ',' :: (w ++ (u ++ rest))) := ends_blank hv (ends_cons (by decide) _)
    have hskip := skipSpace_blank_cons (c := ',') hv (by decide) (w ++ (u ++ rest))
    have hu := hl.skipSpace_blank_append hw rest
    have hlength : t.length ≤ n ∧ u.length ≤ n := by simp at hf; omega
    have hread := read_item (ih hlength.1 hends) hskip (hu ▸ ihl hlength.2 hr)
    simpa [Part.Read] using hread
  | @lastField key j k t w hk h hw ih =>
    obtain ⟨n, rfl, -⟩ := (Spells.lastField hk h hw).exists_fuel hf
    have hends : Ends (w ++ '}' :: rest) := ends_blank hw (ends_cons (by decide) rest)
    have hskip := skipSpace_blank_cons (c := '}') hw (by decide) rest
    have hlength : t.length ≤ n := by simp at hf; omega
    have hread := read_lastField hk (h.skipSpace_append _) (ih hlength hends) hskip
    simpa [Part.Read] using hread
  | @field key j l k t v w u hk h hv hw hl ih ihl =>
    obtain ⟨n, rfl, -⟩ := (Spells.field hk h hv hw hl).exists_fuel hf
    have hends : Ends (v ++ ',' :: (w ++ (u ++ rest))) := ends_blank hv (ends_cons (by decide) _)
    have hskip := skipSpace_blank_cons (c := ',') hv (by decide) (w ++ (u ++ rest))
    have hu := hl.skipSpace_blank_append hw rest
    have hlength : t.length ≤ n ∧ u.length ≤ n := by simp at hf; omega
    have hread := read_field hk (h.skipSpace_append _) (ih hlength.1 hends) hskip
      (hu ▸ ihl hlength.2 hr)
    simpa [Part.Read] using hread

/-- The reader takes every spelling of a value back to it. -/
theorem parse?_of_spells (h : Spells (.value j) t) : parse? t = some j := by
  have hskip := h.skipSpace_append []
  have hread : (Part.value j).Read (2 * t.length + 1) (t ++ []) [] :=
    h.read (by omega) ends_nil
  rw [List.append_nil] at hskip hread
  rw [parse?, hskip]
  exact Option.bind_eq_some_iff.2 ⟨_, hread, rfl⟩

end ImportWeb.Json
