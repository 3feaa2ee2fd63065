import LatexReview.CommandLine.Run

/-!
The program: it reads the files below the working directory and the search path, runs on them,
and writes what has changed.

Programs that checkers would run are not among the files, so such checkers find none.
-/

open LatexReview

/-- The entries of a directory and of all below it, `names` being the way to them. -/
partial def readEntries (names : List Text) (entries : Array IO.FS.DirEntry) :
    IO (List (List Text × Node)) := do
  let mut found := []
  for entry in entries do
    let place := names ++ [entry.fileName.toList]
    if ← entry.path.isDir then
      found := (← readEntries place (← entry.path.readDir)) ++ (place, .directory) :: found
    else
      try
        found := (place, .file (← IO.FS.readBinFile entry.path)) :: found
      catch _ => pure ()
  return found

/-- Writes a node, unless it stands there already. -/
def writeEntry (before : FileTree) (place : List Text) (node : Node) : IO Unit := do
  let path := String.ofList (Text.join [Path.separator] place)
  match node, before.node? place with
  | .directory, none => IO.FS.createDirAll path
  | .file content, some (.file old) =>
    unless content.toList == old.toList do IO.FS.writeBinFile path content
  | .file content, _ => IO.FS.writeBinFile path content
  | _, _ => pure ()

def main (args : List String) : IO UInt32 := do
  let before : FileTree := ⟨← readEntries [] (← (← IO.currentDir).readDir)⟩
  let searchPath := ((← IO.getEnv "PATH").getD "").toList.splitOn ':'
  let result := CommandLine.run ⟨before, searchPath⟩ (args.map String.toList)
  for (place, node) in result.files.entries.reverse do
    writeEntry before place node
  IO.print (String.ofList result.stdout)
  return .ofNat result.code
