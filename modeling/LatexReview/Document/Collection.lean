import LatexReview.Document.Include

/-!
The documents of a run: the given ones, and all that they include.

They are visited in the order in which they are named, each path once. The bound on the
number of visits is the number of texts that a path can be, so it is never reached.
-/

namespace LatexReview.Document

/-- More than the number of paths that lead anywhere. -/
def pathCount : Nat := Nat.pow 256 (FileTree.pathLimit + 1)

/-- The documents at the paths of a queue and all that they include, but for paths seen
before. -/
def visit (files : FileTree) (bound : Nat) (seen queue : List Path) :
    Except RunError (List Document) :=
  match bound, queue with
  | _, [] => .ok []
  | 0, _ :: _ => .ok []
  | bound + 1, path :: rest =>
    if seen.any (Path.same path) then visit files (bound + 1) seen rest
    else do
      let d ← load files path
      let others ← visit files bound (path :: seen) (rest ++ d.includedPaths.filter files.isFile)
      return d :: others
termination_by (bound, queue.length)

/-- The documents at some paths and all that they include. A path that leads to no file is
an error; an included one is passed over. -/
def collect (files : FileTree) (paths : List Path) : Except RunError (List Document) :=
  match paths.find? fun path => !files.isFile path with
  | some path => .error (.file ("File not found: ".toList ++ path))
  | none => visit files pathCount [] paths

end LatexReview.Document
