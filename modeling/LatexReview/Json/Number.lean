import LatexReview.Json.Value

/-!
The value of a number token.

A decimal number keeps the digits that fit a word of 64 bits and counts the others as
zeros. It is scaled by a power of ten in double precision, which may be off the nearest
double by a unit in the last place.
-/

namespace LatexReview.Json

/-- The parts of a decimal number token. -/
structure Decimal where
  negative : Bool
  whole : Text
  fraction : Text
  exponent : Option Int

/-- Appends digits to a significand for as long as it fits a word; also the digits left. -/
def takeDigits (significand : Nat) : Text → Nat × Text
  | [] => (significand, [])
  | d :: rest =>
    let next := significand * 10 + Text.digitValue d
    if next < UInt64.size then takeDigits next rest else (significand, d :: rest)

/-- The least magnitude that a positive integer of 64 bits cannot have. -/
def signedBound : Nat := UInt64.size / 2

/-- Scales a number by a power of ten, in steps of the greatest one; nothing if the result
is out of range. -/
def scale (x : Rat) (exponent : Int) : Option Rat :=
  if 308 < exponent then if x = 0 then some 0 else none
  else if exponent < -308 then
    if x = 0 then some 0
    else scale (Binary64.round (x / Binary64.round (Binary64.powerOfTen 308))) (exponent + 308)
  else
    let power := Binary64.round (Binary64.powerOfTen exponent.natAbs)
    if 0 ≤ exponent then Binary64.inRange? (Binary64.round (x * power))
    else some (Binary64.round (x / power))
termination_by exponent.natAbs
decreasing_by omega

/-- The digits before and after the point, and the exponent, of an unsigned decimal. -/
def Decimal.split (negative : Bool) (s : Text) : Decimal :=
  let whole := s.takeWhile Text.isDigit
  let rest := s.dropWhile Text.isDigit
  let (fraction, rest) :=
    match rest with
    | '.' :: rest => (rest.takeWhile Text.isDigit, rest.dropWhile Text.isDigit)
    | _ => ([], rest)
  let exponent :=
    match rest with
    | [] => none
    | _ :: '-' :: digits => some (-(Text.digitsValue digits : Int))
    | _ :: '+' :: digits => some (Text.digitsValue digits : Int)
    | _ :: digits => some (Text.digitsValue digits : Int)
  ⟨negative, whole, fraction, exponent⟩

/-- An integer in range stays one; any other number is of double precision, if in range. -/
def Decimal.value? (d : Decimal) : Option Number :=
  let (whole, cut) := takeDigits 0 d.whole
  let double (x : Rat) : Number := .double ⟨d.negative, x⟩
  if cut = [] && d.fraction = [] && d.exponent = none then
    if !d.negative then some (.integer whole)
    else if whole = 0 || signedBound < whole then some (double (Binary64.round whole))
    else some (.integer (-(whole : Int)))
  else
    let (significand, left) := takeDigits whole d.fraction
    let exponent := (cut.length : Int) - (d.fraction.length - left.length : Int)
      + d.exponent.getD 0
    (scale (Binary64.round significand) exponent).map double

def hexDigit? (c : Char) : Option Nat :=
  if '0' ≤ c ∧ c ≤ '9' then some (c.toNat - '0'.toNat)
  else if 'a' ≤ c ∧ c ≤ 'f' then some (c.toNat - 'a'.toNat + 10)
  else if 'A' ≤ c ∧ c ≤ 'F' then some (c.toNat - 'A'.toNat + 10)
  else none

def hexValue (s : Text) : Nat := s.foldl (fun n c => 16 * n + (hexDigit? c).getD 0) 0

/-- The value of a number token, or the token itself as a string if no number holds it. -/
def ofNumeral (token : Text) : Json :=
  let negative := token.head? = some '-'
  let unsigned := if negative || token.head? = some '+' then token.drop 1 else token
  match unsigned with
  | '0' :: x :: digits =>
    if x = 'x' || x = 'X' then
      let n := hexValue digits
      if n < signedBound then .number (.integer (if negative then -(n : Int) else n))
      else .string token
    else decimal negative unsigned token
  | _ => decimal negative unsigned token
where
  decimal (negative : Bool) (unsigned token : Text) : Json :=
    match (Decimal.split negative unsigned).value? with
    | some n => .number n
    | none => .string token

end LatexReview.Json
