import LatexReview.Detex.Scan
import LatexReview.Translator

/-!
The plain text of a LaTeX source, with the way back to it and its structural errors.
-/

namespace LatexReview

/-- The prose of a source. The char map has an entry for each plain character and one more
for the end. -/
structure Detexed where
  plain : Text
  charMap : List (Option Nat)
  errors : List Detex.ParseError

def detex (source : Text) : Detexed :=
  let s := (Detex.run Detex.init source).settle
  let out := s.out.toList
  { plain := out.map (·.1)
    charMap := out.map (some ·.2) ++ [some source.length]
    errors := (s.flaws.toList ++ s.openFlaws).map (·.place (.ofText source)) }

/-- The translator between a detexed source and its plain text. -/
def Detexed.translator (d : Detexed) (source : Text) : Translator :=
  .ofMap source d.plain d.charMap

end LatexReview
