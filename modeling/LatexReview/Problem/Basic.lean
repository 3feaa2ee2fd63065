import LatexReview.Severity
import LatexReview.Position

/-!
Problems: what a checker finds in a document.

A problem has two identities. Its key is shared by all occurrences of one mistake and names
it on a whitelist; its uid tells it from all other problems of a run.
-/

namespace LatexReview

/-- A finding. -/
structure Problem where
  position : Option Position
  text : Text
  checker : Text
  problemType : Text
  file : Text
  severity : Severity
  length : Nat
  category : Option Text
  description : Option Text
  context : Text × Text
  suggestions : List Text
  key : Text
deriving DecidableEq

namespace Problem

/-- The category of structural errors. -/
def parseCategory : Text := "parse".toList

def isParseError (p : Problem) : Bool := p.category = some parseCategory

def line? (p : Problem) : Option UInt32 := p.position.map (·.line)

/-- Two findings of one mistake, wherever they are. -/
def SameMistake (p q : Problem) : Prop := p.key ≠ [] ∧ p.key = q.key

instance (p q : Problem) : Decidable (SameMistake p q) :=
  inferInstanceAs (Decidable (_ ∧ _))

/-- Stands between the parts of a uid. -/
def unitSeparator : Char := '\x1f'

/-- What a uid is made of. -/
def uidParts (p : Problem) : List Text :=
  [p.file, p.checker, p.category.getD "None".toList, p.problemType,
    (p.position.map Position.render).getD "None".toList, Text.numeral p.length]

/-- The identity of a problem in a run. -/
def uid (p : Problem) : Text := Text.join [unitSeparator] p.uidParts

/-- A problem in one line. -/
def render (p : Problem) : Text :=
  (p.position.map Position.render).getD ['-'] ++ ' ' :: p.severity.name ++ " [".toList ++
    p.checker ++ '/' :: p.problemType ++ "] ".toList ++ p.text ++
    match p.description with
    | some description => ": ".toList ++ description
    | none => []

end Problem

end LatexReview
