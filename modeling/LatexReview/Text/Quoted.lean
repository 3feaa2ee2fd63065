import LatexReview.Text.Class.Unprintable
import LatexReview.Text.Class.Extending

/-!
Text in quotes for a message: what would not show is written by its code.
-/

namespace LatexReview.Text

/-- The digits of a number to the base sixteen. -/
def hexNumeral (n : Nat) : Text := Nat.toDigits 16 n

def quotedChar (c : Char) : Text :=
  match c with
  | '\x00' => ['\\', '0']
  | '\t' => ['\\', 't']
  | '\r' => ['\\', 'r']
  | '\n' => ['\\', 'n']
  | '"' => ['\\', '"']
  | '\\' => ['\\', '\\']
  | c =>
    if isExtending c || !isPrintable c then
      ['\\', 'u', '\x7b'] ++ hexNumeral c.toNat ++ ['\x7d']
    else [c]

def quoted (s : Text) : Text := '"' :: s.flatMap quotedChar ++ ['"']

end LatexReview.Text
