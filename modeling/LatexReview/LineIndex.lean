import LatexReview.Position

/-!
The line index of a text: where its lines start, and how long it is. It turns offsets into
positions and back.
-/

namespace LatexReview

/-- The offsets at which the lines of a text start, and its length. -/
structure LineIndex where
  starts : List Nat
  length : Nat
deriving DecidableEq

namespace LineIndex

/-- The offsets just after the line breaks of a text that itself starts at `offset`. -/
def startsAfter (offset : Nat) : Text → List Nat
  | [] => []
  | c :: rest =>
    if c = '\n' then (offset + 1) :: startsAfter (offset + 1) rest
    else startsAfter (offset + 1) rest

def ofText (s : Text) : LineIndex := ⟨0 :: startsAfter 0 s, s.length⟩

def lineCount (ix : LineIndex) : Nat := ix.starts.length

/-- The offset of the first character of a line. -/
def lineStart? (ix : LineIndex) (line : Nat) : Option Nat :=
  if line = 0 then none else ix.starts[line - 1]?

/-- The offset at which a line ends: its line break, or the end of the text. -/
def lineEnd (ix : LineIndex) (line : Nat) : Nat :=
  match ix.starts[line]? with
  | some next => next - 1
  | none => ix.length

/-- The number of the line that an offset lies in. -/
def lineAt (ix : LineIndex) (offset : Nat) : Nat :=
  (ix.starts.takeWhile (· ≤ offset)).length

/-- The position of an offset. The end of the text has one, too. -/
def position? (ix : LineIndex) (offset : Nat) : Option Position :=
  if offset > ix.length then none
  else
    let line := ix.lineAt offset
    (ix.lineStart? line).map fun start => .ofCounts line (offset - start + 1)

/-- The offset of a position. A column may stand at the line break of its line, not
beyond it. -/
def offset? (ix : LineIndex) (p : Position) : Option Nat := do
  let start ← ix.lineStart? p.line.toNat
  if p.column = 0 then none
  else
    let offset := start + (p.column.toNat - 1)
    if offset ≤ ix.lineEnd p.line.toNat then some offset else none

end LineIndex

end LatexReview
