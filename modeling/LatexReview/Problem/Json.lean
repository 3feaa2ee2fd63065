import LatexReview.Json.Value
import LatexReview.Problem.Basic

/-!
Positions and problems as JSON.
-/

namespace LatexReview

/-- A position is a pair of line and column. -/
def Position.toJson (p : Position) : Json := .array [.nat p.line.toNat, .nat p.column.toNat]

/-- A position from a pair of integers of 32 bits. -/
def Position.ofJson? : Json → Option Position
  | .array [.number (.integer line), .number (.integer column)] =>
    if 0 ≤ line ∧ line < UInt32.size ∧ 0 ≤ column ∧ column < UInt32.size then
      some (.ofCounts line.toNat column.toNat)
    else none
  | _ => none

namespace Problem

def optional (s : Option Text) : Json :=
  match s with
  | some s => .string s
  | none => .null

/-- The fields of a problem in a result. -/
def members (p : Problem) : List (Text × Json) :=
  [("position", match p.position with
      | some position => position.toJson
      | none => .null),
    ("text", .string p.text),
    ("checker", .string p.checker),
    ("problem_type", .string p.problemType),
    ("file", .string p.file),
    ("severity", .string p.severity.name),
    ("length", .nat p.length),
    ("category", optional p.category),
    ("description", optional p.description),
    ("context", .array [.string p.context.1, .string p.context.2]),
    ("suggestions", .array (p.suggestions.map .string)),
    ("key", .string p.key)].map fun (name, value) => (name.toList, value)

def toJson (p : Problem) : Json := .object p.members

end Problem

end LatexReview
