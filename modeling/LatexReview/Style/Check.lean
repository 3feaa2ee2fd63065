import LatexReview.Checker.Basic
import LatexReview.Style.Argument
import LatexReview.Style.Pattern

/-!
The style checks: unreferenced figures, numbers and units in prose, empty sections, bare
addresses, plain references.
-/

namespace LatexReview.Style

def category : Text := "latex".toList

/-- A finding at an offset of a document. -/
def draft (name : Text) (d : Document) (offset : Nat) (text type : Text) : Problem.Draft where
  checker := name
  text := text
  file := d.path
  position := d.position? offset
  problemType := type
  category := some category
  severity := .info

/-- A command around an argument. -/
def wrap (command argument : Text) : Text := command ++ '\x7b' :: argument ++ ['\x7d']

/-! ### Figures -/

namespace Figures

def checkerName : Text := "UnreferencedFigures".toList

/-- The labels that a source refers to. -/
def referenced (source : Text) : List Text :=
  (reference.matchesIn source).flatMap fun m => (m.value.splitOn ',').map Text.trim

/-- The labels in figures, each with the offset of its name. -/
def figureLabels (source : Text) : List (Nat × Text) :=
  (figure.matchesIn source).flatMap fun f =>
    (label.matchesIn f.text).map fun l => (f.offset + l.offset + "\\label\x7b".length, l.value)

def problems (d : Document) : List Problem :=
  let used := referenced d.source
  ((figureLabels d.source).filter (·.2 ∉ used)).map fun (offset, name) =>
    { draft checkerName d offset name "unreferenced-figure".toList with
      description := some ("Figure ".toList ++ name ++ " is never referenced.".toList)
      context := ("\\label\x7b".toList, ['\x7d']) : Problem.Draft }.build

def checker : Checker := .ofScan checkerName problems

end Figures

/-! ### Numbers -/

namespace Numbers

def checkerName : Text := "SiUnitx".toList

/-- The matches that are prose: outside comments and verbatim arguments. -/
def inProse {α : Type} (commands : List Text) (d : Document) (ms : List (Text.Match α)) :
    List (Text.Match α) :=
  ms.filter fun m =>
    !d.isCommentedOut m.offset && !isInsideArgumentOf commands (d.source.take m.offset)

def numberProblem (d : Document) (m : Text.Match Unit) : Problem :=
  { draft checkerName d m.offset m.text "number".toList with
    description := some
      "For numbers with more than 3 digits, use \\num\x7b\x7d from siunitx.".toList
    suggestions := [wrap "\\num".toList m.text] : Problem.Draft }.build

def unitProblem (d : Document) (m : Text.Match Unit) : Problem :=
  { draft checkerName d m.offset m.text "unit".toList with
    description := some
      "For quantities with units, use \\qty\x7b\x7d\x7b\x7d from siunitx.".toList :
    Problem.Draft }.build

def problems (d : Document) : List Problem :=
  (inProse verbatimCommands d (longNumber.matchesIn d.source)).map (numberProblem d) ++
    (inProse verbatimCommands d (quantity.matchesIn d.source)).map (unitProblem d)

def checker : Checker := .ofScan checkerName problems

end Numbers

/-! ### Sections -/

namespace Sections

def checkerName : Text := "EmptySections".toList

def problems (d : Document) : List Problem :=
  (emptySection.matchesIn d.source).map fun m =>
    { draft checkerName d (m.offset + m.value.1) m.value.2 "empty-section".toList with
      description := some ("Sections should not be empty; ".toList ++
        "add an introduction before the first subsection.".toList) : Problem.Draft }.build

def checker : Checker := .ofScan checkerName problems

end Sections

/-! ### Addresses -/

namespace Addresses

def checkerName : Text := "UrlCheck".toList

def problems (d : Document) : List Problem :=
  (Numbers.inProse addressCommands d (address.matchesIn d.source)).map fun m =>
    { draft checkerName d m.offset m.text "bare-url".toList with
      description := some "For URLs, use \\url\x7b\x7d.".toList
      suggestions := [wrap "\\url".toList m.text] : Problem.Draft }.build

def checker : Checker := .ofScan checkerName problems

end Addresses

/-! ### References -/

namespace References

def checkerName : Text := "NativeUseOfRef".toList

/-- The name in a reference, without further beginnings of references before it. -/
def innerLabel : Text → Text
  | '\\' :: 'r' :: 'e' :: 'f' :: '\x7b' :: rest => innerLabel rest
  | name => name

def problems (d : Document) : List Problem :=
  ((plainReference.matchesIn d.source).filter fun m => !d.isCommentedOut m.offset).map fun m =>
    { draft checkerName d m.offset "\\ref".toList "ref".toList with
      description := some "Prefer \\cref\x7b\x7d over \\ref\x7b\x7d.".toList
      context := ([], wrap [] (innerLabel m.value))
      suggestions := ["\\cref".toList] : Problem.Draft }.build

def checker : Checker := .ofScan checkerName problems

end References

end LatexReview.Style
