import LatexReview.Problem.Basic
import LatexReview.Event

/-!
Drafts of problems, as checkers write them, and the problems that they become.

A problem made from a draft has no position without a text, at most ten suggestions, and a
key on one line.
-/

namespace LatexReview

/-- What a checker says of a finding. -/
structure Problem.Draft where
  checker : Text
  text : Text
  file : Text := []
  position : Option Position := none
  /-- The number of characters, if it is not that of the text. -/
  length : Option Nat := none
  problemType : Text := []
  category : Option Text := none
  severity : Severity := .warning
  description : Option Text := none
  context : Text × Text := ([], [])
  suggestions : List Text := []
  /-- A key in place of the usual one. -/
  key : Option Text := none
  /-- The language of the document; an empty one counts as none. -/
  language : Option Text := none

namespace Problem.Draft

def maxSuggestions : Nat := 10

/-- The categories whose problems depend on the language of the document. -/
def languageCategories : List Text := ["spelling".toList, "grammar".toList]

def isLineBreak (c : Char) : Bool := c = '\n' || c = '\r'

def dropLineBreaks (s : Text) : Text := s.filter fun c => !isLineBreak c

/-- The key of a draft before line breaks are dropped: the one it brings along, or checker,
type and text; with the language in front where it matters. -/
def rawKey (d : Draft) : Text :=
  let key := d.key.getD (d.checker ++ '/' :: d.problemType ++ '/' :: d.text)
  match d.language, d.category with
  | some language, some category =>
    if language ≠ [] && category ∈ languageCategories then language ++ '/' :: key else key
  | _, _ => key

def finalKey (d : Draft) : Text := dropLineBreaks d.rawKey

/-- A position without text points at nothing. -/
def dropsPosition (d : Draft) : Bool := d.position.isSome && d.text = []

def build (d : Draft) : Problem where
  position := if d.text = [] then none else d.position
  text := d.text
  checker := d.checker
  problemType := d.problemType
  file := d.file
  severity := d.severity
  length := d.length.getD d.text.length
  category := d.category
  description := d.description
  context := d.context
  suggestions := d.suggestions.take maxSuggestions
  key := d.finalKey

/-- What building a draft logs. -/
def events (d : Draft) : List Event :=
  if d.dropsPosition then [.positionDropped d.checker] else []

end Problem.Draft

end LatexReview
