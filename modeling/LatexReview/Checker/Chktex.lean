import LatexReview.Checker.Basic

/-!
The checker that runs `chktex` and reads the records that it prints.
-/

namespace LatexReview.Chktex

def checkerName : Text := "Chktex".toList

/-- Stands between the fields of a record. -/
def delimiter : Text := ":::".toList

/-- What `chktex` is asked to print for each finding. -/
def format : Text := "%f:::%l:::%c:::%d:::%n:::%s:::%m:::%k:::%r:::%t\n".toList

/-- The fields of a record, as they stand. -/
structure Record where
  file : Text
  line : Text
  column : Text
  length : Text
  number : Text
  text : Text
  message : Text
  kind : Text
  before : Text
  after : Text
deriving DecidableEq

def fieldCount : Nat := 10

/-- The record in a line. The last field may hold the delimiter. -/
def Record.ofLine? (line : Text) : Option Record :=
  match Text.parts delimiter fieldCount line with
  | [file, row, column, length, number, text, message, kind, before, after] =>
    some ⟨file, row, column, length, number, text, message, kind, before, after⟩
  | _ => none

def severity (kind : Text) : Severity :=
  if kind.trim = "Warning".toList then .warning
  else if kind.trim = "Message".toList then .info
  else .error

/-- A number of 32 bits in a field of a line. -/
def readNumber (line field : Text) : Except Failure UInt32 :=
  match Text.readNumeral? UInt32.size field.trim with
  | some n => .ok (.ofNat n)
  | none =>
    .error (.malformedOutput
      ("invalid number '".toList ++ field ++ "' in: ".toList ++ line))

/-- The problem that a record describes. Without text it cannot have a position, so the
description tells it. -/
def Record.problem (path : Path) (line : Text) (r : Record) : Except Failure Problem := do
  let row ← readNumber line r.line
  let column ← readNumber line r.column
  let length ← readNumber line r.length
  let position : Position := ⟨row, column⟩
  return { checker := checkerName
           text := r.text
           file := path
           position := some position
           length := some length.toNat
           problemType := r.number.trim
           category := some "latex".toList
           severity := severity r.kind
           description := some
             (if r.text = [] then
               r.message ++ " (in ".toList ++ path ++ ':' :: position.render ++ [')']
             else r.message)
           context := (r.before, r.after) : Problem.Draft }.build

def lineProblem (path : Path) (line : Text) : Except Failure Problem :=
  match Record.ofLine? line with
  | some r => r.problem path line
  | none =>
    .error (.malformedOutput ("expected ".toList ++ Text.numeral fieldCount ++
      " fields in chktex record: ".toList ++ line))

/-- The problems in an output. Blank lines do not count. -/
def problems (path : Path) (output : Text) : Except Failure (List Problem) :=
  (output.lines.filter fun line => !line.blank).mapM (lineProblem path)

def outcomeOf : Except Failure (List Problem) → Outcome
  | .ok ps => .found ps
  | .error f => .failed f

/-- What to make of an output. `chktex` reports failure when it has findings; it failed
indeed if it printed none. -/
def outcome (d : Document) (o : Output) : Outcome :=
  if o.exitCode ≠ 0 ∧ o.stdout.blank then .failed (o.failure checkerName)
  else outcomeOf (problems d.path o.stdout)

def arguments : List Text := ["--quiet".toList, "--format".toList, format]

def run (c : Config) (env : Environment) (d : Document) : Trial :=
  match env.findExecutable "chktex".toList with
  | .error f => ⟨.failed f, []⟩
  | .ok program =>
    match env.run program arguments d.source c.toolTimeout with
    | (.error f, calls) => ⟨.failed f, calls⟩
    | (.ok o, calls) => ⟨outcome d o, calls⟩

def checker : Checker := ⟨checkerName, run⟩

end LatexReview.Chktex
