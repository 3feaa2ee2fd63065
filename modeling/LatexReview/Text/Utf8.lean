import LatexReview.Text.Basic

/-!
Text as bytes in UTF-8. Reading is strict, or lossy: the lossy reading replaces each
maximal part that begins a character and does not complete it, and each byte that begins
none, by the replacement character.
-/

namespace LatexReview.Text

def toBytes (s : Text) : ByteArray := (String.ofList s).toUTF8

/-- The text that bytes encode, if they are well formed throughout. -/
def ofBytes? (bytes : ByteArray) : Option Text := bytes.utf8Decode?.map Array.toList

/-- The number of bytes that a text takes. -/
def byteLength (s : Text) : Nat := s.foldr (·.utf8Size + ·) 0

namespace Lossy

/-- A character under way: the bits read, how many bytes are still due, and the bounds on
the next one. -/
structure Pending where
  bits : Nat
  due : Nat
  low : Nat
  high : Nat

/-- The state that the first byte of a character leads to. -/
def first (b : Nat) : Option Pending :=
  if 0xC2 ≤ b ∧ b ≤ 0xDF then some ⟨b - 0xC0, 1, 0x80, 0xBF⟩
  else if b = 0xE0 then some ⟨0, 2, 0xA0, 0xBF⟩
  else if b = 0xED then some ⟨0xD, 2, 0x80, 0x9F⟩
  else if 0xE1 ≤ b ∧ b ≤ 0xEF then some ⟨b - 0xE0, 2, 0x80, 0xBF⟩
  else if b = 0xF0 then some ⟨0, 3, 0x90, 0xBF⟩
  else if 0xF1 ≤ b ∧ b ≤ 0xF3 then some ⟨b - 0xF0, 3, 0x80, 0xBF⟩
  else if b = 0xF4 then some ⟨4, 3, 0x80, 0x8F⟩
  else none

def replacement : Char := '\uFFFD'

/-- Between characters: a byte is a character, begins one, or is replaced. -/
def start (b : Nat) : Option Pending × Text :=
  if b < 0x80 then (none, [Char.ofNat b])
  else match first b with
    | some p => (some p, [])
    | none => (none, [replacement])

/-- One byte: what is under way after it, and the characters that it settles. -/
def step (b : Nat) : Option Pending → Option Pending × Text
  | none => start b
  | some p =>
    if p.low ≤ b ∧ b ≤ p.high then
      let bits := p.bits * 64 + (b - 0x80)
      if p.due = 1 then (none, [Char.ofNat bits])
      else (some ⟨bits, p.due - 1, 0x80, 0xBF⟩, [])
    else
      let (state, out) := start b
      (state, replacement :: out)

def run : Option Pending → List UInt8 → Text
  | none, [] => []
  | some _, [] => [replacement]
  | state, b :: rest =>
    let (state, out) := step b.toNat state
    out ++ run state rest

end Lossy

/-- The text of bytes that may be malformed. -/
def ofBytesLossy (bytes : ByteArray) : Text := Lossy.run none bytes.toList

end LatexReview.Text
