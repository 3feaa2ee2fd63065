import LatexReview.Text.Class.CasePairs
import LatexReview.Text.Class.Cased
import LatexReview.Text.Class.CaseIgnorable

/-!
Upper and lower case for all scripts.

Upper case may take more characters than the text had. In lower case, a capital sigma at
the end of a word has its final form.
-/

namespace LatexReview.Text

namespace Case

/-- The partner of a character by the run that it stands in. -/
def partner? (runs : List Run) (c : Char) : Option Char :=
  let n := c.toNat
  (runs.find? fun r => r.first ≤ n && n ≤ r.last && (n - r.first) % r.step == 0).map
    fun r => Char.ofNat (r.partner + (n - r.first))

def upperChar (c : Char) : Text :=
  match upperExpansions.lookup c.toNat with
  | some codes => codes.map Char.ofNat
  | none => [(partner? upperRuns c).getD c]

def lowerChar (c : Char) : Text :=
  if c = '\u0130' then ['i', '\u0307'] else [(partner? lowerRuns c).getD c]

/-- Stands next to a cased character, but for characters to look past. -/
def touchesCased (s : Text) : Bool :=
  match s.dropWhile isCaseIgnorable with
  | [] => false
  | c :: _ => isCased c

/-- Lower case of a text, given what precedes it, the last character first. -/
def lowerAfter (before : Text) : Text → Text
  | [] => []
  | c :: rest =>
    let lowered :=
      if c = 'Σ' then
        if touchesCased before && !touchesCased rest then ['ς'] else ['σ']
      else lowerChar c
    lowered ++ lowerAfter (c :: before) rest

end Case

def upper (s : Text) : Text := s.flatMap Case.upperChar

def lower (s : Text) : Text := Case.lowerAfter [] s

end LatexReview.Text
