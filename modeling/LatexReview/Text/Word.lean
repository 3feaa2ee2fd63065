import LatexReview.Text.Class.Alphabetic
import LatexReview.Text.Class.Mark
import LatexReview.Text.Class.Digit
import LatexReview.Text.Class.Number
import LatexReview.Text.Class.Recent

/-!
The characters that words and names are made of. Words of a running text know none of the
latest characters, names know them all.
-/

namespace LatexReview.Text

/-- A connector between words, such as the low line. -/
def isConnector (c : Char) : Bool :=
  c = '_' || c = '\u203F' || c = '\u2040' || c = '\u2054' || c = '\uFE33' || c = '\uFE34' ||
    ('\uFE4D' ≤ c && c ≤ '\uFE4F') || c = '\uFF3F'

/-- A joiner or non-joiner between letters. -/
def isJoiner (c : Char) : Bool := c = '\u200C' || c = '\u200D'

/-- A digit of a number in a running text. -/
def isWordDigit (c : Char) : Bool := isDecimal c && !isRecent c

/-- A character of a word. -/
def isWordChar (c : Char) : Bool :=
  (isAlphabetic c || isMark c || isDecimal c || isConnector c || isJoiner c) && !isRecent c

/-- A letter or a number of any script. -/
def isAlphanumeric (c : Char) : Bool := isAlphabetic c || isNumber c

end LatexReview.Text
