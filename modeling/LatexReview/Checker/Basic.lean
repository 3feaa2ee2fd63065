import LatexReview.Config.Basic
import LatexReview.Document.Basic
import LatexReview.Problem.Draft
import LatexReview.Store.Execution

/-!
Checkers: what looks for problems in a document.
-/

namespace LatexReview

/-- How a checker ends. -/
inductive Outcome where
  | found (problems : List Problem)
  | failed (failure : Failure)
  | crashed

/-- The problems of an outcome. A checker that fails has found none. -/
def Outcome.problems : Outcome → List Problem
  | .found problems => problems
  | .failed _ | .crashed => []

/-- One run of a checker, with the programs that it ran. -/
structure Trial where
  outcome : Outcome
  calls : List Call := []

/-- A checker has a name and looks at a document, given a configuration and what is
around. -/
structure Checker where
  name : Text
  run : Config → Environment → Document → Trial

/-- A checker that only reads the document. -/
def Checker.ofScan (name : Text) (scan : Document → List Problem) : Checker :=
  ⟨name, fun _ _ document => ⟨.found (scan document), []⟩⟩

end LatexReview
