import LatexReview.Text.Basic

/-!
Comments: what follows a percent sign in a line, unless a backslash makes it literal.
-/

namespace LatexReview.Comment

/-- The part of a line before its comment, given whether a backslash is in effect. -/
def stripFrom (escaped : Bool) : Text → Text
  | [] => []
  | c :: rest =>
    if c = '\\' then c :: stripFrom (!escaped) rest
    else if c = '%' ∧ !escaped then []
    else c :: stripFrom false rest

/-- The part of a line before its comment. -/
def strip (line : Text) : Text := stripFrom false line

/-- The last line of a text, as far as it goes. -/
def lastLine (s : Text) : Text := (s.reverse.takeWhile (· ≠ '\n')).reverse

/-- The place after a text is in a comment. -/
def covers (before : Text) : Bool :=
  (strip (lastLine before)).length < (lastLine before).length

end LatexReview.Comment
