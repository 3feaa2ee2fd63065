import LatexReview.Text.Basic

/-!
Whether a place is in the argument of a command.
-/

namespace LatexReview.Style

/-- The text before a place up to its last opening brace, last character first, if no brace
closes after that. -/
def openGroup? (before : Text) : Option Text :=
  let back := before.reverse
  if '\x7d' ∈ back.takeWhile (· ≠ '\x7b') then none
  else match back.dropWhile (· ≠ '\x7b') with
    | [] => none
    | opening => some opening

/-- A place is in the argument of a command, of those given with their opening brace. -/
def isInsideArgumentOf (commands : List Text) (before : Text) : Bool :=
  match openGroup? before with
  | some opening => commands.any fun command => command.reverse.isPrefixOf opening
  | none => false

/-- The commands whose arguments are not set as prose. -/
def verbatimCommands : List Text :=
  ["\\url", "\\href", "\\num", "\\SI", "\\si", "\\qty", "\\unit", "\\label", "\\ref", "\\cref",
    "\\cite", "\\includegraphics", "\\input", "\\include"].map fun name => name.toList ++ ['\x7b']

/-- The commands whose argument is an address. -/
def addressCommands : List Text :=
  ["\\url", "\\href"].map fun name => name.toList ++ ['\x7b']

end LatexReview.Style
