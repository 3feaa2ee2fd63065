import LatexReview.Text.Basic

/-!
Decimal numerals: writing a number, and reading one below a bound.
-/

namespace LatexReview.Text

/-- The decimal digits of a number, without leading zeros. -/
def numeral (n : Nat) : Text := Nat.toDigits 10 n

def digitValue (c : Char) : Nat := c.toNat - '0'.toNat

/-- The value of a row of digits. -/
def digitsValue (s : Text) : Nat := s.foldl (fun n c => 10 * n + digitValue c) 0

/-- Reads a numeral below `bound`: digits, with at most one plus sign before them. -/
def readNumeral? (bound : Nat) (s : Text) : Option Nat :=
  let digits := (s.stripStart? ['+']).getD s
  if digits ≠ [] && digits.all isDigit then
    let n := digitsValue digits
    if n < bound then some n else none
  else none

end LatexReview.Text
