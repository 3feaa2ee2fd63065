import LatexReview.Bibliography.Similarity
import LatexReview.Checker.Basic
import LatexReview.Text.Matches

/-!
The checker for duplicates in the bibliography of a document.
-/

namespace LatexReview.Bibliography

def checkerName : Text := "BibtexDuplicates".toList

/-- Similarity above which two entries count as duplicates. -/
def threshold : Rat := Binary64.round (17 / 20)

/-- Two entries are told apart by a similarity up to the threshold only. -/
def areDuplicates (a b : Entry) : Bool :=
  !(similarity? Binary64.round a b).any (· ≤ threshold)

/-- The pairs of an entry and a later one that are duplicates. -/
def duplicates : List Entry → List (Entry × Entry)
  | [] => []
  | e :: rest => (rest.filter (areDuplicates e)).map (e, ·) ++ duplicates rest

/-- The command that names the bibliography; its argument. -/
def bibliographyCommand : Text.Pattern Text := .ofReader fun s => do
  let (argument, rest) ← Text.group? (← s.stripStart? "\\bibliography".toList)
  if argument = [] then none else some (argument, rest)

/-- The file name for a name of a bibliography. -/
def fileName (name : Text) : Path :=
  if ".bib".toList.isSuffixOf name then name else name ++ ".bib".toList

/-- The bibliography of a document: the first name in the first command outside comments. -/
def bibliographyPath? (d : Document) : Option Path := do
  let m ← (bibliographyCommand.matchesIn d.source).find? fun m => !d.isCommentedOut m.offset
  let name := Text.trim ((m.value.splitOn ',').headD [])
  if name = [] then none
  else
    some (match d.path.parent? with
      | some directory => Path.join directory (fileName name)
      | none => fileName name)

def draft (path : Path) (a b : Entry) : Problem.Draft where
  checker := checkerName
  text := a.id ++ " <=> ".toList ++ b.id
  file := path
  problemType := "duplicate".toList
  category := some "bibliography".toList
  severity := .warning
  description := some ("Possible duplicate entries in the BibTeX file. These entries are ".toList ++
    "very similar and might be redundant; compare them manually.".toList)
  context := ("BibTeX duplicate: ".toList, [])
  key := some (checkerName ++ '/' :: a.id ++ '/' :: b.id)

/-- The problems for the bibliography in a text. -/
def problems (path : Path) (bibliography : Text) : List Problem :=
  (duplicates (entries bibliography)).map fun (a, b) => (draft path a b).build

def outcome (files : FileTree) (d : Document) : Outcome :=
  match bibliographyPath? d with
  | none => .found []
  | some path =>
    match files.readText path with
    | .ok s => .found (problems d.path s)
    | .error cause =>
      .failed (.io (.other ("cannot read ".toList ++ path ++ ": ".toList ++ cause.message)))

def checker : Checker := ⟨checkerName, fun _ env d => ⟨outcome env.files d, []⟩⟩

end LatexReview.Bibliography
