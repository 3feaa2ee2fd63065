import LatexReview.Bibliography.Check
import LatexReview.Checker.Aspell
import LatexReview.Checker.Chktex
import LatexReview.Checker.Structure
import LatexReview.Style.Check

/-!
The checkers that there are, by name.
-/

namespace LatexReview

/-- The known checkers in the order of their names. -/
structure Registry where
  entries : List (Text × Checker)

namespace Registry

def empty : Registry := ⟨[]⟩

def insert (name : Text) (checker : Checker) : List (Text × Checker) → List (Text × Checker)
  | [] => [(name, checker)]
  | (other, old) :: rest =>
    match name.compare other with
    | .lt => (name, checker) :: (other, old) :: rest
    | .eq => (name, checker) :: rest
    | .gt => (other, old) :: insert name checker rest

/-- Makes a checker known by a name, in place of any other. -/
def register (r : Registry) (name : Text) (checker : Checker) : Registry :=
  ⟨insert name checker r.entries⟩

def names (r : Registry) : List Text := r.entries.map (·.1)

def contains (r : Registry) (name : Text) : Bool := name ∈ r.names

/-- The checkers of the library. -/
def builtins : List Checker :=
  [Structure.checker, Style.Figures.checker, Style.Numbers.checker, Style.Sections.checker,
    Style.Addresses.checker, Style.References.checker, Bibliography.checker, Chktex.checker,
    Aspell.checker]

def withBuiltins : Registry := builtins.foldl (fun r c => r.register c.name c) empty

/-- The checkers that a configuration enables. -/
def select (r : Registry) (c : Config) : List Checker :=
  (r.entries.filter fun (name, _) => c.isModuleEnabled name).map (·.2)

/-- The names that a configuration mentions and nobody is known by. -/
def unknownNames (r : Registry) (c : Config) : List Event :=
  let selected :=
    match c.selection with
    | .configured => []
    | .only names | .except names => names.eraseDups
  (selected.filter fun name => !r.contains name).map .unknownModule ++
    ((c.modules.map (·.1)).filter fun name => !r.contains name).map .optionsForUnknownModule

end Registry

/-- A value with a list of names, as a log shows it. -/
def describeNames (title : Text) (names : List Text) : Text :=
  title ++ " \x7b checkers: [".toList ++ Text.join ", ".toList (names.map Text.quoted) ++
    "] \x7d".toList

def Registry.describe (r : Registry) : Text := describeNames "CheckerRegistry".toList r.names

end LatexReview
