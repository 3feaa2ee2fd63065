import LatexReview.Checker.Basic

/-!
The checker that reports structural errors.
-/

namespace LatexReview.Structure

def checkerName : Text := "Detex".toList

/-- The problem that a structural error is. -/
def draft (path : Path) (e : Detex.ParseError) : Problem.Draft where
  checker := checkerName
  text := e.message
  file := path
  position := e.position
  length := some 1
  problemType := "detex".toList
  category := some Problem.parseCategory
  severity := .error
  description := some ("The document could not be fully converted to plain text; ".toList ++
    "findings near this position may be inaccurate.".toList)

def problems (d : Document) : List Problem := d.parseErrors.map fun e => (draft d.path e).build

def checker : Checker := .ofScan checkerName problems

end LatexReview.Structure
