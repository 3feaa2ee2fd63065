import LatexReview.Text.Basic

/-!
All matches of a pattern in a text, from left to right.

A pattern looks at a text from some character on, and tells how many characters match, and
what it reads off them. Matches do not overlap.
-/

namespace LatexReview.Text

/-- A pattern gets the character before a text, if any, and the text. -/
abbrev Pattern (α : Type) := Option Char → Text → Option (Nat × α)

/-- A part of a text that matches, and what is read off it. -/
structure Match (α : Type) where
  offset : Nat
  text : Text
  value : α

def Match.length {α : Type} (m : Match α) : Nat := m.text.length

namespace Pattern

/-- The matches in a text that starts at `offset`, after `skip` characters that belong to
an earlier one. -/
def matchesFrom {α : Type} (p : Pattern α) (offset skip : Nat) (before : Option Char) :
    Text → List (Match α)
  | [] => []
  | c :: rest =>
    match skip with
    | skip + 1 => matchesFrom p (offset + 1) skip (some c) rest
    | 0 =>
      match p before (c :: rest) with
      | some (count, value) =>
        ⟨offset, (c :: rest).take count, value⟩ ::
          matchesFrom p (offset + 1) (count - 1) (some c) rest
      | none => matchesFrom p (offset + 1) 0 (some c) rest

/-- The matches in a text. -/
def matchesIn {α : Type} (p : Pattern α) (s : Text) : List (Match α) := p.matchesFrom 0 0 none s

/-- The pattern that reads a value and leaves a rest, whatever comes before. -/
def ofReader {α : Type} (read : Text → Option (α × Text)) : Pattern α := fun _ s =>
  (read s).map fun (value, rest) => (s.length - rest.length, value)

end Pattern

/-- The text in a brace group without braces closed in it, and what follows the group. -/
def group? (s : Text) : Option (Text × Text) := do
  let rest ← s.stripStart? ['\x7b']
  cutChar? '\x7d' rest

/-- The first of some texts that a text starts with, and what follows it. -/
def stripAny? (s : Text) (starts : List Text) : Option Text :=
  starts.findSome? (s.stripStart? ·)

/-- A text without one given character at its start, if it is there. -/
def dropOne (d : Char) (s : Text) : Text :=
  match s with
  | c :: rest => if c = d then rest else s
  | [] => []

end LatexReview.Text
