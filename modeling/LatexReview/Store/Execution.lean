import LatexReview.Checker.Failure
import LatexReview.Store.FileTree

/-!
Running the programs of a file tree.

A program is looked up in a row of directories, which belongs to the environment as the files
do. It gets its whole input at once, and a bounded time to finish.
-/

namespace LatexReview

/-- What is around: the files, and the directories in which programs are looked up. -/
structure Environment where
  files : FileTree
  searchPath : List Path

def Environment.empty : Environment := ⟨.empty, []⟩

/-- What a finished program left. -/
structure Output where
  exitCode : Nat
  stdout : Text
  stderr : Text
deriving DecidableEq

/-- A run of a program that came to its end. -/
structure Call where
  place : List Text
  arguments : List Text
  stdin : Text
deriving DecidableEq

namespace Output

def status (o : Output) : Text := "exit status: ".toList ++ Text.numeral o.exitCode

def failure (o : Output) (program : Text) : Failure :=
  .process program o.status o.stderr.trim

/-- Fails unless the program says that all went well. -/
def ensureSuccess (o : Output) (program : Text) : Except Failure Output :=
  if o.exitCode = 0 then .ok o else .error (o.failure program)

end Output

namespace FileTree

/-- The program that a path leads to. -/
def programAt (t : FileTree) (path : Path) : Except IoError (List Text × Program) := do
  match ← t.find path, ← t.resolve path with
  | .program behaviour, .inside names => .ok (names, behaviour)
  | _, _ => .error .permissionDenied

/-- The program of a name in the first of some directories that has one. A file that is no
program is passed over, and reported if nothing else is found; without one, the last
directory tells the cause. -/
def searchProgram (t : FileTree) (name : Text) (cause : IoError) :
    List Path → Except IoError (List Text × Program)
  | [] => .error cause
  | directory :: rest =>
    match t.programAt (Path.join directory name) with
    | .error .permissionDenied =>
      match t.searchProgram name .permissionDenied rest with
      | .error .notFound | .error .notADirectory => .error .permissionDenied
      | outcome => outcome
    | .error .notFound => t.searchProgram name .notFound rest
    | .error .notADirectory => t.searchProgram name .notADirectory rest
    | outcome => outcome

/-- The time between two looks at a running program. -/
def pollInterval : Duration := .ofMilliseconds 20

/-- How often to look at a running program before it is given up. -/
def pollAttempts (limit : Duration) : Nat :=
  let attempts := (limit.nanoseconds / 1000000) / (pollInterval.nanoseconds / 1000000)
  max 1 (min attempts (UInt32.size - 1))

end FileTree

namespace Environment

/-- The first file of this name on the search path. -/
def findExecutable (env : Environment) (name : Text) : Except Failure Path :=
  match (env.searchPath.map (Path.join · name)).find? env.files.isFile with
  | some path => .ok path
  | none => .error (.executableNotFound name)

/-- The program that a command means: a path to it, or a name on the search path. -/
def programOf (env : Environment) (command : Path) : Except IoError (List Text × Program) :=
  if command = [] then .error .notFound
  else if Path.separator ∈ command then env.files.programAt command
  else env.files.searchProgram command .notFound env.searchPath

/-- Runs a program with an input, for at most the given time. -/
def run (env : Environment) (command : Path) (arguments : List Text) (stdin : Text)
    (limit : Duration) : Except Failure Output × List Call :=
  if '\x00' ∈ command || arguments.any ('\x00' ∈ ·) then (.error (.io .nullInCommand), [])
  else match env.programOf command with
    | .error cause => (.error (.io cause), [])
    | .ok (place, behaviour) =>
      if behaviour.hangs then (.error (.timeout command limit), [])
      else
        (.ok ⟨behaviour.exitCode, Text.ofBytesLossy behaviour.stdout,
          Text.ofBytesLossy behaviour.stderr⟩, [⟨place, arguments, stdin⟩])

end Environment

end LatexReview
