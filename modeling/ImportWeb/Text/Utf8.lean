/-!
Texts as bytes. A text is written in UTF-8; bytes that are no text are read all the same, with a
replacement character for each stretch of bytes that begins a character and breaks off, and for
each byte that can begin none.
-/

namespace ImportWeb.Text

def utf8 (s : List Char) : List UInt8 := s.flatMap String.utf8EncodeChar

/-- A character of which some bytes have been read. -/
structure Pending where
  /-- How many bytes are to come. -/
  missing : Nat
  /-- The least byte that can be the next one. -/
  low : Nat
  /-- The greatest one. -/
  high : Nat
  /-- The bits so far. -/
  bits : Nat
  deriving DecidableEq, Repr

namespace Pending

/-- The character of several bytes that a byte begins. The bounds of the second byte keep out
characters that have a shorter form, surrogates, and what lies beyond the last character. -/
def ofLead? (b : Nat) : Option Pending :=
  if 0xC2 ≤ b ∧ b ≤ 0xDF then some ⟨1, 0x80, 0xBF, b % 0x20⟩
  else if b = 0xE0 then some ⟨2, 0xA0, 0xBF, 0⟩
  else if b = 0xED then some ⟨2, 0x80, 0x9F, 0xD⟩
  else if 0xE1 ≤ b ∧ b ≤ 0xEF then some ⟨2, 0x80, 0xBF, b % 0x10⟩
  else if b = 0xF0 then some ⟨3, 0x90, 0xBF, 0⟩
  else if b = 0xF4 then some ⟨3, 0x80, 0x8F, 4⟩
  else if 0xF1 ≤ b ∧ b ≤ 0xF3 then some ⟨3, 0x80, 0xBF, b % 8⟩
  else none

end Pending

/-- What stands for bytes that are no text. -/
def replacement : Char := '\uFFFD'

/-- A byte between two characters: the characters that it completes, and the one that it begins. -/
def beginChar (b : Nat) : List Char × Option Pending :=
  if b < 0x80 then ([Char.ofNat b], none)
  else
    match Pending.ofLead? b with
    | some p => ([], some p)
    | none => ([replacement], none)

/-- A byte after those of a character that is pending, if any. One that does not go on with it
begins anew. -/
def takeByte : Option Pending → Nat → List Char × Option Pending
  | none, b => beginChar b
  | some p, b =>
    if p.low ≤ b ∧ b ≤ p.high then
      let bits := 0x40 * p.bits + b % 0x40
      if p.missing = 1 then ([Char.ofNat bits], none)
      else ([], some ⟨p.missing - 1, 0x80, 0xBF, bits⟩)
    else (replacement :: (beginChar b).1, (beginChar b).2)

def decodeFrom (pending : Option Pending) : List UInt8 → List Char
  | [] => if pending.isSome then [replacement] else []
  | b :: rest => (takeByte pending b.toNat).1 ++ decodeFrom (takeByte pending b.toNat).2 rest

/-- Bytes as a text. -/
def decode (bytes : List UInt8) : List Char := decodeFrom none bytes

end ImportWeb.Text
