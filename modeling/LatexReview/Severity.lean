import LatexReview.Text.Basic

/-!
How bad a problem is.
-/

namespace LatexReview

inductive Severity where
  | none
  | info
  | warning
  | error
deriving DecidableEq, Inhabited

namespace Severity

/-- From harmless to serious. -/
def rank : Severity → Nat
  | none => 0
  | info => 1
  | warning => 2
  | error => 3

def name : Severity → Text
  | none => "none".toList
  | info => "info".toList
  | warning => "warning".toList
  | error => "error".toList

/-- The name as a title. -/
def title : Severity → Text
  | none => "None".toList
  | info => "Info".toList
  | warning => "Warning".toList
  | error => "Error".toList

def all : List Severity := [none, info, warning, error]

/-- The severity with exactly this name. -/
def ofName? (s : Text) : Option Severity := all.find? (·.name = s)

/-- The severity with this name, in capital or small letters. -/
def parse? (s : Text) : Option Severity := ofName? s.lowerLetters

/-- What to say of a name that no severity has. -/
def unknownMessage (s : Text) : Text := "unknown severity '".toList ++ s ++ ['\'']

end Severity

end LatexReview
