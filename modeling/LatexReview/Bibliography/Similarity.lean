import LatexReview.Bibliography.Entry
import LatexReview.Binary64

/-!
How similar two entries of a bibliography are.

The ratio of two texts is twice the length of a longest common subsequence, as a share of
both lengths. The similarity of two entries is the mean of the ratios of their kinds and of
the fields that both have. Every step of the arithmetic is rounded in a given way.
-/

namespace LatexReview.Bibliography

/-! ### Common subsequences -/

/-- Two rows of a table of lengths, one finished and one to write over. -/
structure Rows where
  previous : Array Nat
  current : Array Nat

namespace Rows

def zero (columns : Nat) : Rows := ⟨.replicate columns 0, .replicate columns 0⟩

/-- Fills in the column behind a character `b` at `j`, in the row of the character `a`. -/
def fill (a : Char) (rows : Rows) : Char × Nat → Rows
  | (b, j) =>
    let value :=
      if a = b then rows.previous.getD j 0 + 1
      else max (rows.current.getD j 0) (rows.previous.getD (j + 1) 0)
    { rows with current := rows.current.setIfInBounds (j + 1) value }

/-- Finishes the row of a character. The row before it is then free. -/
def finish (b : Text) (rows : Rows) (a : Char) : Rows :=
  let filled := b.zipIdx.foldl (fill a) rows
  ⟨filled.current, filled.previous⟩

end Rows

/-- The rows that the beginnings of `a` lead to. A row holds a length for each beginning of
`b`. -/
def table (a b : Text) : Rows := a.foldl (Rows.finish b) (.zero (b.length + 1))

/-- The length of a longest common subsequence. -/
def common (a b : Text) : Nat := (table a b).previous.getD b.length 0

/-! ### Ratios -/

/-- How to round after each step. -/
abbrev Rounding := Rat → Rat

def ratio (round : Rounding) (a b : Text) : Rat :=
  if a.length + b.length = 0 then 1
  else round (round (2 * common a b : Nat) / round (a.length + b.length : Nat))

def isWrapping (c : Char) : Bool := c = '\x7b' || c = '\x7d' || c = '"' || Text.isSpace c

/-- A value without the braces, quotes and space around it, with single spaces, in upper
case. -/
def clean (value : Text) : Text :=
  (Text.join [' '] (Text.words (Text.dropEndWhile isWrapping (value.dropWhile isWrapping)))).upper

/-- The ratios of the fields of `a` that `b` has, too. -/
def fieldRatios (round : Rounding) (a b : Entry) : List Rat :=
  a.fields.filterMap fun (name, value) =>
    (b.field? name).map fun other => ratio round (clean value) (clean other)

/-! ### Means -/

/-- A sum of numbers, and how many they are, counted in 32 bits. -/
structure Tally where
  total : Rat
  count : UInt32

namespace Tally

def add (round : Rounding) (t : Tally) (x : Rat) : Tally := ⟨round (t.total + x), t.count + 1⟩

/-- The mean, unless the count has come round to zero: then there is no quotient. -/
def mean? (round : Rounding) (t : Tally) : Option Rat :=
  if t.count = 0 then none else some (round (t.total / t.count.toNat))

end Tally

/-- The ratios of two entries, that of their kinds first. -/
def tally (round : Rounding) (a b : Entry) : Tally :=
  (fieldRatios round a b).foldl (Tally.add round) ⟨ratio round a.kind b.kind, 1⟩

def similarity? (round : Rounding) (a b : Entry) : Option Rat := (tally round a b).mean? round

end LatexReview.Bibliography
