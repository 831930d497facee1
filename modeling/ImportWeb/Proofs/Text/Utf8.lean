import Mathlib.Data.List.Basic
import ImportWeb.Text.Split
import ImportWeb.Text.Utf8

/-!
A text is read back from its bytes, and they have a byte below 0x80 just where the text has that
character. So a text may be cut at such a character before or after it is written as bytes.
-/

namespace ImportWeb.Text

/-! ### Reading characters back -/

theorem toNat_byte {n : Nat} (h : n < 0x100) : (UInt8.ofNat n).toNat = n :=
  UInt8.toNat_ofNat_of_lt' h

/-- A byte that goes on with a character and is not its last one. -/
theorem decodeFrom_more {p : Pending} {n : Nat} (h : n < 0x100) (hn : p.low ≤ n ∧ n ≤ p.high)
    (hmissing : p.missing ≠ 1) (rest : List UInt8) :
    decodeFrom (some p) (UInt8.ofNat n :: rest) =
      decodeFrom (some ⟨p.missing - 1, 0x80, 0xBF, 0x40 * p.bits + n % 0x40⟩) rest := by
  rw [decodeFrom, toNat_byte h, takeByte, if_pos hn, if_neg hmissing, List.nil_append]

theorem decodeFrom_last {p : Pending} {n : Nat} (h : n < 0x100) (hn : p.low ≤ n ∧ n ≤ p.high)
    (hmissing : p.missing = 1) (rest : List UInt8) :
    decodeFrom (some p) (UInt8.ofNat n :: rest) =
      Char.ofNat (0x40 * p.bits + n % 0x40) :: decodeFrom none rest := by
  rw [decodeFrom, toNat_byte h, takeByte, if_pos hn, if_pos hmissing, List.singleton_append]

theorem decodeFrom_lead {p : Pending} {n : Nat} (h : n < 0x100) (hhigh : 0x80 ≤ n)
    (hlead : Pending.ofLead? n = some p) (rest : List UInt8) :
    decodeFrom none (UInt8.ofNat n :: rest) = decodeFrom (some p) rest := by
  rw [decodeFrom, toNat_byte h, takeByte, beginChar, if_neg (by omega), hlead, List.nil_append]

/-- Scalar values leave out the surrogates. -/
theorem toNat_valid (c : Char) : c.toNat < 0xD800 ∨ 0xDFFF < c.toNat ∧ c.toNat < 0x110000 :=
  c.valid

theorem decodeFrom_two {v : Nat} (hlow : 0x80 ≤ v) (hhigh : v < 0x800) (rest : List UInt8) :
    decodeFrom none (UInt8.ofNat (v / 64 % 32 + 192) :: UInt8.ofNat (v % 64 + 128) :: rest) =
      Char.ofNat v :: decodeFrom none rest := by
  have hlead : Pending.ofLead? (v / 64 % 32 + 192) = some ⟨1, 0x80, 0xBF, v / 64⟩ := by
    unfold Pending.ofLead?
    rw [if_pos (by omega)]
    congr 2
    omega
  rw [decodeFrom_lead (by omega) (by omega) hlead, decodeFrom_last (by omega) (by simp; omega) rfl]
  congr 2
  simp only
  omega

/-- The second byte of three is held to what is not a shorter form and no surrogate. -/
theorem ofLead?_three {v : Nat} (hlow : 0x800 ≤ v) (hhigh : v < 0x10000)
    (hvalid : v < 0xD800 ∨ 0xDFFF < v) :
    ∃ low high, Pending.ofLead? (v / 4096 % 16 + 224) = some ⟨2, low, high, v / 4096⟩ ∧
      low ≤ v / 64 % 64 + 128 ∧ v / 64 % 64 + 128 ≤ high := by
  have hb : v / 4096 % 16 = v / 4096 := by omega
  rw [hb]
  unfold Pending.ofLead?
  rw [if_neg (by omega)]
  by_cases h0 : v / 4096 = 0
  · exact ⟨_, _, by rw [if_pos (by omega), h0], by omega, by omega⟩
  by_cases hD : v / 4096 = 0xD
  · exact ⟨_, _, by rw [if_neg (by omega), if_pos (by omega), hD], by omega, by omega⟩
  · refine ⟨0x80, 0xBF, ?_, by omega, by omega⟩
    rw [if_neg (by omega), if_neg (by omega), if_pos (by omega)]
    congr 2
    omega

theorem decodeFrom_three {v : Nat} (hlow : 0x800 ≤ v) (hhigh : v < 0x10000)
    (hvalid : v < 0xD800 ∨ 0xDFFF < v) (rest : List UInt8) :
    decodeFrom none (UInt8.ofNat (v / 4096 % 16 + 224) :: UInt8.ofNat (v / 64 % 64 + 128) ::
      UInt8.ofNat (v % 64 + 128) :: rest) = Char.ofNat v :: decodeFrom none rest := by
  obtain ⟨low, high, hlead, hnext⟩ := ofLead?_three hlow hhigh hvalid
  rw [decodeFrom_lead (by omega) (by omega) hlead, decodeFrom_more (by omega) hnext (by simp),
    decodeFrom_last (by omega) (by simp; omega) rfl]
  congr 2
  simp only
  omega

theorem ofLead?_four {v : Nat} (hlow : 0x10000 ≤ v) (hhigh : v < 0x110000) :
    ∃ low high, Pending.ofLead? (v / 262144 % 8 + 240) = some ⟨3, low, high, v / 262144⟩ ∧
      low ≤ v / 4096 % 64 + 128 ∧ v / 4096 % 64 + 128 ≤ high := by
  have hb : v / 262144 % 8 = v / 262144 := by omega
  rw [hb]
  unfold Pending.ofLead?
  rw [if_neg (by omega), if_neg (by omega), if_neg (by omega), if_neg (by omega)]
  by_cases h0 : v / 262144 = 0
  · exact ⟨_, _, by rw [if_pos (by omega), h0], by omega, by omega⟩
  by_cases h4 : v / 262144 = 4
  · exact ⟨_, _, by rw [if_neg (by omega), if_pos (by omega), h4], by omega, by omega⟩
  · refine ⟨0x80, 0xBF, ?_, by omega, by omega⟩
    rw [if_neg (by omega), if_neg (by omega), if_pos (by omega)]
    congr 2
    omega

theorem decodeFrom_four {v : Nat} (hlow : 0x10000 ≤ v) (hhigh : v < 0x110000)
    (rest : List UInt8) :
    decodeFrom none (UInt8.ofNat (v / 262144 % 8 + 240) :: UInt8.ofNat (v / 4096 % 64 + 128) ::
      UInt8.ofNat (v / 64 % 64 + 128) :: UInt8.ofNat (v % 64 + 128) :: rest) =
        Char.ofNat v :: decodeFrom none rest := by
  obtain ⟨low, high, hlead, hnext⟩ := ofLead?_four hlow hhigh
  rw [decodeFrom_lead (by omega) (by omega) hlead, decodeFrom_more (by omega) hnext (by simp),
    decodeFrom_more (by omega) (by simp; omega) (by simp),
    decodeFrom_last (by omega) (by simp; omega) rfl]
  congr 2
  simp only
  omega

/-- A character is read back from its bytes, whatever follows them. -/
theorem decodeFrom_utf8EncodeChar (c : Char) (rest : List UInt8) :
    decodeFrom none (String.utf8EncodeChar c ++ rest) = c :: decodeFrom none rest := by
  have hvalid := toNat_valid c
  have hval : c.val.toNat = c.toNat := rfl
  have hchar : Char.ofNat c.toNat = c := Char.ofNat_toNat c
  unfold String.utf8EncodeChar
  simp only [hval]
  split
  case isTrue h1 =>
    rw [List.singleton_append, decodeFrom, toNat_byte (by omega), takeByte, beginChar,
      if_pos (by omega), hchar]
    rfl
  case isFalse h1 =>
  split
  case isTrue h2 =>
    exact (decodeFrom_two (by omega) (by omega) rest).trans (by rw [hchar])
  case isFalse h2 =>
  split
  case isTrue h3 =>
    exact (decodeFrom_three (by omega) (by omega) (by omega) rest).trans (by rw [hchar])
  case isFalse h3 =>
    exact (decodeFrom_four (by omega) (by omega) rest).trans (by rw [hchar])

/-- A text is read back from its bytes. -/
theorem decode_utf8 (s : List Char) : decode (utf8 s) = s := by
  induction s with
  | nil => rfl
  | cons c rest ih =>
    rw [utf8, List.flatMap_cons, ← utf8, decode, decodeFrom_utf8EncodeChar]
    exact congrArg (c :: ·) ih

theorem utf8_injective : Function.Injective utf8 :=
  Function.LeftInverse.injective decode_utf8

/-! ### Cutting before or after writing -/

theorem utf8EncodeChar_ascii {c : Char} (h : c.toNat < 0x80) :
    String.utf8EncodeChar c = [UInt8.ofNat c.toNat] := by
  have hval : c.val.toNat = c.toNat := rfl
  rw [String.utf8EncodeChar, hval, if_pos (by omega)]

/-- Bytes of a longer character cannot be taken for a shorter one. -/
theorem le_of_mem_utf8EncodeChar {c : Char} {b : UInt8} (h : 0x80 ≤ c.toNat)
    (hb : b ∈ String.utf8EncodeChar c) : 0x80 ≤ b.toNat := by
  have hval : c.val.toNat = c.toNat := rfl
  have hbyte : ∀ n m, 0x80 ≤ m → n + m < 0x100 → 0x80 ≤ (UInt8.ofNat (n + m)).toNat := by
    intro n m hm hlt
    rw [toNat_byte hlt]
    omega
  unfold String.utf8EncodeChar at hb
  simp only [hval] at hb
  rw [if_neg (by omega)] at hb
  split at hb
  · simp only [List.mem_cons, List.not_mem_nil, or_false] at hb
    rcases hb with rfl | rfl <;> exact hbyte _ _ (by omega) (by omega)
  split at hb
  · simp only [List.mem_cons, List.not_mem_nil, or_false] at hb
    rcases hb with rfl | rfl | rfl <;> exact hbyte _ _ (by omega) (by omega)
  · simp only [List.mem_cons, List.not_mem_nil, or_false] at hb
    rcases hb with rfl | rfl | rfl | rfl <;> exact hbyte _ _ (by omega) (by omega)

theorem not_mem_utf8EncodeChar {c sep : Char} (hsep : sep.toNat < 0x80) (h : c ≠ sep) :
    UInt8.ofNat sep.toNat ∉ String.utf8EncodeChar c := by
  have hbyte : (UInt8.ofNat sep.toNat).toNat = sep.toNat := toNat_byte (by omega)
  intro hmem
  by_cases hc : c.toNat < 0x80
  · rw [utf8EncodeChar_ascii hc, List.mem_singleton] at hmem
    have hsame := congrArg UInt8.toNat hmem
    rw [hbyte, toNat_byte (by omega)] at hsame
    exact h (Char.toNat_inj.1 hsame.symm)
  · have hle := le_of_mem_utf8EncodeChar (by omega) hmem
    omega

/-- A text cut at an ASCII character and its bytes cut at that byte have the same pieces. -/
theorem splitAtChar_utf8 {sep : Char} (hsep : sep.toNat < 0x80) (s : List Char) :
    splitAtChar (UInt8.ofNat sep.toNat) (utf8 s) = (splitAtChar sep s).map utf8 := by
  induction s with
  | nil => rfl
  | cons c rest ih =>
    rw [utf8, List.flatMap_cons, ← utf8]
    by_cases h : c = sep
    · subst h
      rw [utf8EncodeChar_ascii hsep, List.singleton_append, splitAtChar_cons_self,
        splitAtChar_cons_self, ih]
      rfl
    · obtain ⟨head, tail, h₁, h₂⟩ :=
        splitAtChar_append_left (not_mem_utf8EncodeChar hsep h) (utf8 rest)
      obtain ⟨head', tail', h₃, h₄⟩ := splitAtChar_cons h rest
      rw [ih, h₃, List.map_cons, List.cons.injEq] at h₁
      rw [h₂, h₄, List.map_cons, ← h₁.1, ← h₁.2]
      rfl

end ImportWeb.Text
