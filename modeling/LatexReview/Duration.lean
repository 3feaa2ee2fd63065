import LatexReview.Text.Numeral

/-!
Durations, counted in nanoseconds.
-/

namespace LatexReview

structure Duration where
  nanoseconds : Nat
deriving DecidableEq

namespace Duration

def ofSeconds (n : Nat) : Duration := ⟨n * 1000000000⟩

def ofMilliseconds (n : Nat) : Duration := ⟨n * 1000000⟩

/-- A number in units of `10 ^ places`, with its fraction but no zeros at its end. -/
def decimal (n places : Nat) : Text :=
  let unit := Nat.pow 10 places
  let digits := Text.numeral (n % unit)
  let fraction :=
    Text.dropEndWhile (· = '0') (List.replicate (places - digits.length) '0' ++ digits)
  Text.numeral (n / unit) ++ if n % unit = 0 then [] else '.' :: fraction

/-- Written in the largest unit that it fills. -/
def render (d : Duration) : Text :=
  let n := d.nanoseconds
  if 1000000000 ≤ n then decimal n 9 ++ ['s']
  else if 1000000 ≤ n then decimal n 6 ++ "ms".toList
  else if 1000 ≤ n then decimal n 3 ++ "µs".toList
  else Text.numeral n ++ "ns".toList

end Duration

end LatexReview
