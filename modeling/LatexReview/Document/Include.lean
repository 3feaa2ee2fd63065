import LatexReview.Document.Basic
import LatexReview.Text.Matches

/-!
The files that a document includes.
-/

namespace LatexReview.Document

/-- An including command at the start of a text: its argument, and what follows. -/
def inclusion? (s : Text) : Option (Text × Text) := do
  let rest ← s.stripAny? ["\\input".toList, "\\include".toList]
  let (argument, rest) ← Text.group? (rest.dropWhile Text.isSpace)
  if argument = [] then none else some (argument, rest)

/-- The arguments of the including commands in a line. -/
def inclusions (line : Text) : List Text :=
  ((Text.Pattern.ofReader inclusion?).matchesIn (Comment.strip line)).map (·.value)

/-- The path that an argument names, seen from a directory. Without an extension it gets the
usual one. -/
def includedPath (directory : Path) (argument : Text) : Path :=
  let p : Path := argument.trim
  Path.join directory (if p.extension? = none then p.withExtension "tex".toList else p)

/-- Appends a path unless it is there already. -/
def addPath (paths : List Path) (p : Path) : List Path :=
  if paths.any p.same then paths else paths ++ [p]

/-- The files that a document includes, outside comments, each once. -/
def includedPaths (d : Document) : List Path :=
  ((d.source.lines.flatMap inclusions).map (includedPath (d.path.parent?.getD []))).foldl
    addPath []

end LatexReview.Document
