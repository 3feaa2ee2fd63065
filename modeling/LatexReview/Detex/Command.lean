import LatexReview.Text.Basic

/-!
What the commands of LaTeX mean to a reader of its prose.
-/

namespace LatexReview.Detex

/-- What a command does to the text around it. -/
inductive Role where
  /-- Opens the environment that its argument names. -/
  | opens
  /-- Closes the environment that its argument names. -/
  | closes
  /-- Stands for a fixed text. -/
  | expands (text : Text)
  /-- Takes an argument that is not prose. -/
  | skips
  /-- Leaves no trace. -/
  | vanishes
deriving DecidableEq

/-- The commands whose first argument is not prose. -/
def skippingCommands : List Text :=
  ["label", "ref", "cref", "Cref", "eqref", "pageref", "autoref", "cite", "citep", "citet",
    "nocite", "usepackage", "documentclass", "includegraphics", "input", "include",
    "bibliography", "bibliographystyle", "url", "href", "hspace", "vspace", "pagestyle",
    "thispagestyle"].map String.toList

/-- The commands that stand for a text, with that text. -/
def expansions : List (Text × Text) :=
  [("ldots", "..."), ("dots", "..."), ("LaTeX", "LaTeX"), ("TeX", "TeX"),
    ("textbackslash", "\\")].map fun (name, text) => (name.toList, text.toList)

/-- The environments whose body is no prose. -/
def mathEnvironments : List Text :=
  ["equation", "equation*", "align", "align*", "gather", "gather*", "multline", "multline*",
    "displaymath", "math"].map String.toList

/-- The characters that a backslash before them makes literal. -/
def escapable : Text := "%&$#_{}".toList

def Role.ofName (name : Text) : Role :=
  if name = "begin".toList then .opens
  else if name = "end".toList then .closes
  else match expansions.lookup name with
    | some text => .expands text
    | none => if name ∈ skippingCommands then .skips else .vanishes

end LatexReview.Detex
