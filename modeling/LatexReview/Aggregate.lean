import LatexReview.Checker.Registry
import LatexReview.ProblemSet
import LatexReview.Suppression.Record

/-!
Checking a document with several checkers.

Their problems are put together, less what the document suppresses and what is on the
whitelist. A checker that fails counts as one that finds nothing.
-/

namespace LatexReview

/-- A row of checkers. -/
structure Aggregate where
  checkers : List Checker

namespace Aggregate

def ofRegistry (r : Registry) (c : Config) : Aggregate := ⟨r.select c⟩

def names (a : Aggregate) : List Text := a.checkers.map (·.name)

def describe (a : Aggregate) : Text := describeNames "Aggregator".toList a.names

/-- What all checkers find, checker by checker. -/
def trials (a : Aggregate) (c : Config) (env : Environment) (d : Document) : List Trial :=
  a.checkers.map fun checker => checker.run c env d

def found (a : Aggregate) (c : Config) (env : Environment) (d : Document) : List Problem :=
  (a.trials c env d).flatMap (·.outcome.problems)

/-- The live problems of a document. -/
def check (a : Aggregate) (c : Config) (env : Environment) (d : Document) (w : Whitelist) :
    ProblemSet :=
  let record := (Suppression.Record.ofSource d.source).1
  (ProblemSet.ofList (record.apply (a.found c env d))).withoutWhitelisted w

end Aggregate

end LatexReview
