import LatexReview.Text.Matches
import LatexReview.Text.Word

/-!
What the style checks look for in a source.
-/

namespace LatexReview.Style

open Text

/-! ### Figures and labels -/

/-- What follows the first end of a figure in a text. -/
def afterFigure : Text → Option Text
  | [] => none
  | c :: rest =>
    match (Text.stripStart? (c :: rest) "\\end\x7bfigure".toList).bind
        fun rest => Text.stripStart? (dropOne '*' rest) ['\x7d'] with
    | some rest => some rest
    | none => afterFigure rest

/-- A figure, from its beginning to the first end of one. -/
def figure : Pattern Unit := .ofReader fun s => do
  let rest ← s.stripStart? "\\begin\x7bfigure".toList
  let rest ← Text.stripStart? (dropOne '*' rest) ['\x7d']
  return ((), ← afterFigure rest)

/-- A label; its name. -/
def label : Pattern Text := .ofReader fun s => do
  group? (← s.stripStart? "\\label".toList)

/-- A command that refers to labels; their names, as they stand. -/
def reference : Pattern Text := .ofReader fun s => do
  group? (← s.stripAny?
    (["\\cref", "\\Cref", "\\vref", "\\Vref", "\\autoref", "\\ref", "\\pageref"].map
      String.toList))

/-- A plain reference; the name of its label. -/
def plainReference : Pattern Text := .ofReader fun s => do
  group? (← s.stripStart? "\\ref".toList)

/-! ### Numbers -/

/-- Four or more digits. -/
def longNumber : Pattern Unit := fun _ s =>
  let digits := s.takeWhile isWordDigit
  if 4 ≤ digits.length then some (digits.length, ()) else none

def units : List Text :=
  ["mm", "cm", "km", "mg", "kg", "ms", "ns", "Hz", "kHz", "MHz", "GHz", "kB", "MB", "GB",
    "TB"].map String.toList

/-- Stands at the edge of a word, with a character of the word on the other side. -/
def atWordEdge : Option Char → Bool
  | some c => !isWordChar c
  | none => true

/-- Drops a point and the digits after it, if there are any. -/
def dropFraction (s : Text) : Text :=
  match s with
  | '.' :: rest =>
    match rest with
    | d :: _ => if isWordDigit d then rest.dropWhile isWordDigit else s
    | [] => s
  | _ => s

def dropSpace (s : Text) : Text :=
  match s with
  | c :: rest => if isSpace c then rest else s
  | [] => []

/-- A number with a unit, apart from other words. -/
def quantity : Pattern Unit := fun before s =>
  if s.takeWhile isWordDigit = [] || !atWordEdge before then none
  else do
    let rest ← Text.stripAny? (dropSpace (dropFraction (s.dropWhile isWordDigit))) units
    if atWordEdge rest.head? then some (s.length - rest.length, ()) else none

/-! ### Sections -/

/-- Drops a label and the space after it, if there is one. -/
def dropLabel (s : Text) : Text :=
  match (s.stripStart? "\\label".toList).bind group? with
  | some (_, rest) => rest.dropWhile isSpace
  | none => s

/-- A section, perhaps with a label, that goes straight on to a subsection; the start and
the text of its title. -/
def emptySection : Pattern (Nat × Text) := .ofReader fun s => do
  let rest ← s.stripStart? "\\section".toList
  let opening := dropOne '*' rest
  let (title, rest) ← group? opening
  let rest ← (dropLabel (rest.dropWhile isSpace)).stripStart? "\\subsection".toList
  return ((s.length - opening.length + 1, title), rest)

/-! ### Addresses -/

/-- A character of an address. -/
def isAddressChar (c : Char) : Bool := !isSpace c && c ≠ '\x7b' && c ≠ '\x7d'

/-- An address on the web. -/
def address : Pattern Unit := .ofReader fun s => do
  let rest ← s.stripAny? ["https://".toList, "http://".toList, "ftp://".toList]
  if rest.takeWhile isAddressChar = [] then none
  else some ((), rest.dropWhile isAddressChar)

end LatexReview.Style
