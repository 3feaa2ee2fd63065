import LatexReview.Store.IoError
import LatexReview.Store.Path
import LatexReview.Text.Utf8

/-!
A tree of files: a working directory with all that it holds.

A relative path leads from the working directory to a place in the tree; an absolute one
leads nowhere, and so does one that is too long or holds the null character. On the way,
each place must be a directory.
-/

namespace LatexReview

/-- What a program does when it is run. -/
structure Program where
  stdout : ByteArray
  stderr : ByteArray
  exitCode : Nat
  /-- The program never ends. -/
  hangs : Bool

/-- What stands at a place in a tree. -/
inductive Node where
  | directory
  | file (content : ByteArray)
  | program (behaviour : Program)

/-- The nodes below the working directory, by the names on the way to them. -/
structure FileTree where
  entries : List (List Text × Node)

namespace FileTree

def empty : FileTree := ⟨[]⟩

/-- The node at a place of the tree. -/
def node? (t : FileTree) (place : List Text) : Option Node :=
  if place = [] then some .directory else t.entries.lookup place

/-- The tree with a node put at a place. -/
def put (t : FileTree) (place : List Text) (node : Node) : FileTree :=
  ⟨(place, node) :: t.entries.filter (·.1 ≠ place)⟩

def removePlace (t : FileTree) (place : List Text) : FileTree :=
  ⟨t.entries.filter (·.1 ≠ place)⟩

/-! ### Walking -/

/-- A place of the tree, or one above it. -/
inductive Place where
  | inside (names : List Text)
  | above
deriving DecidableEq

/-- The bytes that a name may take. -/
def nameLimit : Nat := 255

/-- The bytes that a path may take. -/
def pathLimit : Nat := 4095

/-- The place that a part of a path leads to. -/
def enter (t : FileTree) (place : Place) (part : Text) : Except IoError Place :=
  match place with
  | .above => if Path.isIdle part || part = "..".toList then .ok .above else .error .notFound
  | .inside names =>
    match t.node? names with
    | none => .error .notFound
    | some .directory =>
      if Path.isIdle part then .ok place
      else if part = "..".toList then
        if names = [] then .ok .above else .ok (.inside names.dropLast)
      else if nameLimit < Text.byteLength part then .error .nameTooLong
      else .ok (.inside (names ++ [part]))
    | some _ => .error .notADirectory

def walk (t : FileTree) (place : Place) (parts : List Text) : Except IoError Place :=
  parts.foldlM (t.enter ·) place

/-- Fails for a path that leads nowhere in any tree. -/
def checkPath (path : Path) : Except IoError Unit :=
  if '\x00' ∈ path then .error .nullInPath
  else if path = [] || path.isAbsolute then .error .notFound
  else if pathLimit < Text.byteLength path then .error .nameTooLong
  else .ok ()

/-- The place that a path leads to. Something need not stand there. -/
def resolve (t : FileTree) (path : Path) : Except IoError Place := do
  checkPath path
  t.walk (.inside []) (path.splitOn Path.separator)

/-- The node that a path leads to. -/
def find (t : FileTree) (path : Path) : Except IoError Node := do
  match ← t.resolve path with
  | .above => .ok .directory
  | .inside names =>
    match t.node? names with
    | some node => .ok node
    | none => .error .notFound

def isFile (t : FileTree) (path : Path) : Bool :=
  match t.find path with
  | .ok (.file _) | .ok (.program _) => true
  | _ => false

def isDirectory (t : FileTree) (path : Path) : Bool :=
  match t.find path with
  | .ok .directory => true
  | _ => false

def isPresent (t : FileTree) (path : Path) : Bool := (t.find path).isOk

/-! ### Reading -/

def readBytes (t : FileTree) (path : Path) : Except IoError ByteArray := do
  match ← t.find path with
  | .directory => .error .isADirectory
  | .file content => .ok content
  | .program _ => .ok .empty

def readText (t : FileTree) (path : Path) : Except IoError Text := do
  match Text.ofBytes? (← t.readBytes path) with
  | some s => .ok s
  | none => .error .malformedText

/-! ### Writing -/

/-- The parts of a path without the slashes at its end. -/
def properParts (path : Path) : List Text :=
  ((path.splitOn Path.separator).reverse.dropWhile (· = [])).reverse

/-- The place to create a file at. A path that ends in a slash is none for a file. -/
def creationPlace (t : FileTree) (path : Path) : Except IoError (List Text) := do
  checkPath path
  match ← t.walk (.inside []) (properParts path) with
  | .above => .error .isADirectory
  | .inside names =>
    if path.getLast? = some Path.separator then .error .isADirectory
    else match t.node? names with
      | some .directory => .error .isADirectory
      | _ => .ok names

/-- Writes at the end of a file, which need not be there yet. -/
def append (t : FileTree) (path : Path) (text : Text) : Except IoError FileTree := do
  let place ← t.creationPlace path
  match t.node? place with
  | some (.file content) => .ok (t.put place (.file (content ++ text.toBytes)))
  | _ => .ok (t.put place (.file text.toBytes))

def writeBytes (t : FileTree) (path : Path) (content : ByteArray) : Except IoError FileTree := do
  return t.put (← t.creationPlace path) (.file content)

def write (t : FileTree) (path : Path) (text : Text) : Except IoError FileTree :=
  t.writeBytes path text.toBytes

/-- Deletes a file. -/
def remove (t : FileTree) (path : Path) : Except IoError FileTree := do
  match ← t.find path, ← t.resolve path with
  | .directory, _ => .error .isADirectory
  | _, .inside names => .ok (t.removePlace names)
  | _, .above => .error .notFound

/-- Creates a directory, if there is none yet. -/
def createDirectory (t : FileTree) (path : Path) : Except IoError FileTree := do
  checkPath path
  match ← t.walk (.inside []) (properParts path) with
  | .above => .ok t
  | .inside names =>
    match t.node? names with
    | none => .ok (t.put names .directory)
    | some .directory => .ok t
    | some _ => .error .alreadyPresent

/-- Creates a directory and those that it is in, the outermost first. -/
def createDirectories (t : FileTree) (path : Path) : Except IoError FileTree :=
  if path = [] then .ok t
  else do
    checkPath path
    (path.names.dropLast.map (path.take ·.2) ++ [path]).foldlM createDirectory t

end FileTree

end LatexReview
