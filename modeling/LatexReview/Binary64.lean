import LatexReview.Text.Numeral

/-!
Numbers of double precision: rounding a rational to the nearest one, and the shortest
decimal that reads back.

A number is a sign and a rational magnitude that `Binary64.round` leaves as it is.
-/

namespace LatexReview

/-- A finite number of double precision. Zero has a sign, too. -/
structure Binary64 where
  negative : Bool
  magnitude : Rat
deriving DecidableEq

namespace Binary64

def powerOfTwo (e : Int) : Rat :=
  if 0 ≤ e then (Nat.pow 2 e.toNat : Rat) else 1 / (Nat.pow 2 (-e).toNat : Rat)

def powerOfTen (e : Int) : Rat :=
  if 0 ≤ e then (Nat.pow 10 e.toNat : Rat) else 1 / (Nat.pow 10 (-e).toNat : Rat)

/-- The nearest integer; of two, the even one. -/
def nearestInt (x : Rat) : Int :=
  let below := x.floor
  let rest := x - below
  if rest < 1 / 2 then below
  else if 1 / 2 < rest then below + 1
  else if below % 2 = 0 then below else below + 1

/-- The exponent of the unit in the last place of a positive number: its significand then
has 53 bits, or fewer at the lower end of the range. -/
def unitExponent (x : Rat) : Int :=
  let guess : Int := (Nat.log2 x.num.toNat : Int) - (Nat.log2 x.den : Int)
  let top := if powerOfTwo guess ≤ x then guess else guess - 1
  max (top - 52) (-1074)

/-- The nearest number of double precision to one that is not negative; of two, the one
with an even significand. -/
def round (x : Rat) : Rat :=
  if x ≤ 0 then 0
  else
    let unit := powerOfTwo (unitExponent x)
    nearestInt (x / unit) * unit

/-- The least power of two above the range. -/
def limit : Rat := powerOfTwo 1024

/-- A magnitude in range. -/
def inRange? (x : Rat) : Option Rat := if x < limit then some x else none

/-! ### Shortest decimals -/

/-- The exponent of the first digit of a positive number. -/
def decimalExponent (x : Rat) : Int :=
  let guess : Int := (Nat.toDigits 10 x.num.toNat).length - (Nat.toDigits 10 x.den).length
  if powerOfTen guess ≤ x then guess else guess - 1

/-- The multiple of a unit nearest to `x` among its two neighbours that round to `x`. -/
def readsBack? (x unit : Rat) : Option Nat :=
  let low := (x / unit).floor
  let high := low + 1
  let fits (n : Int) : Bool := round (n * unit) = x
  let nearer :=
    let toLow := x - low * unit
    let toHigh := high * unit - x
    if toLow < toHigh then low
    else if toHigh < toLow then high
    else if low % 2 = 0 then low else high
  if fits nearer then some nearer.toNat
  else if fits low then some low.toNat
  else if fits high then some high.toNat
  else none

/-- The least digits, at least `count` of them, whose decimal rounds to `x`; the first one
has the weight of `top`. -/
def shortestFrom (x : Rat) (top : Int) : Nat → Nat → Nat × Int
  | _, 0 => ((x / powerOfTen (top - 17)).floor.toNat, top - 17)
  | count, more + 1 =>
    let weight := top - (count - 1 : Int)
    match readsBack? x (powerOfTen weight) with
    | some digits => (digits, weight)
    | none => shortestFrom x top (count + 1) more

/-- A positive number as a decimal: an integer and the exponent of ten that scales it. -/
def shortest (x : Rat) : Nat × Int := shortestFrom x (decimalExponent x) 1 17

/-! ### Notation -/

/-- Digits without the zeros at their end. -/
def significant (digits : Text) : Text := digits.dropEndWhile (· = '0')

/-- An exponent with its sign. -/
def exponentText (e : Int) : Text := (if e < 0 then '-' else '+') :: Text.numeral e.natAbs

/-- Positional from 0.00001 to below 10 to the 16, with at least one digit on both sides of
the point, and in scientific notation elsewhere. -/
def magnitudeText (x : Rat) : Text :=
  if x ≤ 0 then "0.0".toList
  else
    let (number, weight) := shortest x
    let digits := Text.numeral number
    let top := weight + (digits.length - 1 : Int)
    let digits := significant digits
    if top < -5 || 15 < top then
      let fraction := digits.drop 1
      digits.take 1 ++ (if fraction = [] then [] else '.' :: fraction) ++ 'e' :: exponentText top
    else if top < 0 then
      "0.".toList ++ List.replicate (-top - 1).toNat '0' ++ digits
    else
      let whole := top.toNat + 1
      let fraction := digits.drop whole
      digits.take whole ++ List.replicate (whole - digits.length) '0' ++
        '.' :: (if fraction = [] then ['0'] else fraction)

def render (x : Binary64) : Text :=
  if x.negative then '-' :: magnitudeText x.magnitude else magnitudeText x.magnitude

end Binary64

end LatexReview
