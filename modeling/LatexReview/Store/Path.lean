import LatexReview.Text.Basic

/-!
Paths, as texts and as rows of components.

A path keeps the text that it was given. Two paths are the same if their components are:
repeated and trailing slashes and dots after the first component do not count.
-/

namespace LatexReview

/-- A path is written as a text. -/
abbrev Path := Text

namespace Path

def separator : Char := '/'

def isAbsolute (p : Path) : Bool := p.head? = some separator

/-- A part between slashes that is no component. -/
def isIdle (part : Text) : Bool := part = [] || part = ['.']

inductive Component where
  | root
  | current
  | name (text : Text)
deriving DecidableEq

def components (p : Path) : List Component :=
  let parts := p.splitOn separator
  let names := (parts.filter (!isIdle ·)).map Component.name
  if p.isAbsolute then .root :: names
  else if parts.head? = some ['.'] then .current :: names
  else names

/-- Equality of paths. -/
def same (p q : Path) : Bool := p.components = q.components

/-! ### The last component -/

/-- Parts that stand at `offset` in a path, each with the place where it ends. -/
def endings (offset : Nat) : List Text → List (Text × Nat)
  | [] => []
  | part :: rest =>
    (part, offset + part.length) :: endings (offset + part.length + 1) rest

/-- The names in a path, each with the place where it ends. -/
def names (p : Path) : List (Text × Nat) :=
  (endings 0 (p.splitOn separator)).filter (!isIdle ·.1)

/-- What a path starts with before its names: a slash, or a dot. -/
def anchor (p : Path) : Path :=
  if p.isAbsolute || (p.splitOn separator).head? = some ['.'] then p.take 1 else []

/-- The directory that a path is in; the empty path for a single component. -/
def parent? (p : Path) : Option Path :=
  match p.names.reverse with
  | [] => if p.anchor = ['.'] then some [] else none
  | [_] => some p.anchor
  | _ :: (_, stop) :: _ => some (p.take stop)

/-- The last name, unless it leads up, with the place where it ends. -/
def lastName? (p : Path) : Option (Text × Nat) :=
  p.names.getLast?.filter (·.1 ≠ "..".toList)

/-- A file name cut at its last dot, unless it starts there. -/
def splitExtension (name : Text) : Text × Option Text :=
  let extension := (name.reverse.takeWhile (· ≠ '.')).reverse
  if extension.length + 1 < name.length then
    (name.take (name.length - extension.length - 1), some extension)
  else (name, none)

def stem? (p : Path) : Option Text := p.lastName?.map fun (name, _) => (splitExtension name).1

def extension? (p : Path) : Option Text :=
  p.lastName?.bind fun (name, _) => (splitExtension name).2

/-- Gives the file name another extension, and drops what follows the name. -/
def withExtension (extension : Text) (p : Path) : Path :=
  match p.lastName? with
  | some (name, stop) =>
    p.take (stop - (name.length - (splitExtension name).1.length)) ++ '.' :: extension
  | none => p

/-! ### Combination -/

/-- A path inside a directory; an absolute one stands for itself. -/
def join (directory p : Path) : Path :=
  if p.isAbsolute then p
  else if directory = [] || directory.getLast? = some separator then directory ++ p
  else directory ++ separator :: p

/-- A relative path by its components, with its last slash if it ends in one. -/
def tidy (p : Path) : Path :=
  if p.isAbsolute then p
  else
    let names := (p.splitOn separator).filter (!isIdle ·)
    if names = [] then (if p.getLast? = some separator then "./".toList else ['.'])
    else
      Text.join [separator] names ++ (if p.getLast? = some separator then [separator] else [])

end Path

end LatexReview
