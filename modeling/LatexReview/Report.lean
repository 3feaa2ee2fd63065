import LatexReview.Document.Basic
import LatexReview.Problem.Json

/-!
Reports: the problems of the documents of a run, as text, as JSON, and as result files.
-/

namespace LatexReview

/-- The problems of a document, in the order in which they are shown. -/
structure Report where
  path : Path
  problems : List Problem

namespace Report

def isError (p : Problem) : Bool := p.severity = .error

def hasErrors (r : Report) : Bool := r.problems.any isError

/-- A report as text; nothing if there are no problems. -/
def render (r : Report) : Text :=
  if r.problems = [] then []
  else
    '\n' :: r.path ++ ":\n".toList ++
      r.problems.flatMap fun p => ' ' :: ' ' :: p.render ++ ['\n']

def summary (rs : List Report) : Text :=
  let problems := rs.flatMap (·.problems)
  "\nChecked ".toList ++ Text.numeral rs.length ++ " files, found ".toList ++
    Text.numeral problems.length ++ " problems (".toList ++
    Text.numeral (problems.countP isError) ++ " errors)\n".toList

def renderAll (rs : List Report) : Text := rs.flatMap render ++ summary rs

/-- Problems as JSON, in the order of their fields. -/
def problemsJson (ps : List Problem) : Text := (Json.array (ps.map Problem.toJson)).pretty 0

def jsonAll (rs : List Report) : Text := problemsJson (rs.flatMap (·.problems)) ++ ['\n']

/-! ### Result files -/

/-- The name of the result for a stem; all but the first one are numbered. -/
def resultName (stem : Text) (n : Nat) : Text :=
  if n ≤ 1 then stem ++ ".result.json".toList
  else stem ++ '-' :: Text.numeral n ++ ".result.json".toList

/-- The last number of a result, `2 ^ 31 - 2`. The next number is counted ahead, in 32 bits with a
sign. -/
def lastNumber : Nat := 2147483646

/-- The first name for a stem that is not used, from number `n` on, unless the numbers run
out. -/
def freeName? (used : List Text) (stem : Text) (n : Nat) : Option Text :=
  if resultName stem n ∉ used then some (resultName stem n)
  else if n < lastNumber then freeName? used stem (n + 1)
  else none
termination_by lastNumber - n

/-- The names of results for some stems, after names that are used already. -/
def resultNames? (used : List Text) : List Text → Option (List Text)
  | [] => some []
  | stem :: rest => do
    let name ← freeName? used stem 1
    let names ← resultNames? (used ++ [name]) rest
    return name :: names

def stem (path : Path) : Text := path.stem?.getD "document".toList

/-- The paths of the result files for documents. -/
def resultPaths? (directory : Path) (documents : List Path) : Option (List Path) :=
  (resultNames? [] (documents.map stem)).map (List.map (Path.join directory))

/-- Writes a file for each report, up to the first that fails. -/
def writeAll (files : FileTree) : List (Path × Report) → Option IoError × FileTree
  | [] => (none, files)
  | (target, r) :: rest =>
    match files.write target (problemsJson r.problems) with
    | .ok files => writeAll files rest
    | .error cause => (some cause, files)

end Report

end LatexReview
