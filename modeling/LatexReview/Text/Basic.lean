/-!
Text as the list of its characters.

Every offset, column and length of the library counts characters of such a list. The cuts
here (lines, words, trimmed ends, the first occurrence of a pattern) lose nothing but what
they cut at.
-/

namespace LatexReview

/-- A text is the list of its characters. -/
abbrev Text := List Char

namespace Text

instance : LawfulBEq Text := inferInstance

/-- White space, of any script. -/
def isSpace (c : Char) : Bool :=
  let n := c.toNat
  (9 ≤ n && n ≤ 13) || n == 0x20 || n == 0x85 || n == 0xA0 || n == 0x1680 ||
    (0x2000 ≤ n && n ≤ 0x200A) || n == 0x2028 || n == 0x2029 || n == 0x202F ||
    n == 0x205F || n == 0x3000

/-- Holds no character but white space. -/
def blank (s : Text) : Bool := s.all isSpace

/-! ### Ends -/

def trimStart (s : Text) : Text := s.dropWhile isSpace

/-- Drops the longest end that satisfies `p` throughout. -/
def dropEndWhile (p : Char → Bool) (s : Text) : Text := (s.reverse.dropWhile p).reverse

def trimEnd (s : Text) : Text := s.dropEndWhile isSpace

def trim (s : Text) : Text := trimEnd (trimStart s)

/-- What follows a given beginning. -/
def stripStart? (s start : Text) : Option Text :=
  if start.isPrefixOf s then some (s.drop start.length) else none

/-- What precedes a given end. -/
def stripEnd? (s tail : Text) : Option Text :=
  if tail.isSuffixOf s then some (s.take (s.length - tail.length)) else none

/-! ### Lines and words -/

/-- A line without the carriage return before its line break. -/
def dropReturn (line : Text) : Text := (line.stripEnd? ['\r']).getD line

/-- The lines of a text. A line break ends its line, so an empty rest after the last one
is no line; a carriage return belongs to the line break that follows it. -/
def lines (s : Text) : List Text :=
  let parts := s.splitOn '\n'
  let last := parts.getLastD []
  parts.dropLast.map dropReturn ++ if last = [] then [] else [last]

/-- The maximal runs of characters that are not white space. -/
def words (s : Text) : List Text :=
  (s.splitOnP isSpace).filter (· ≠ [])

/-- Joins texts, with one between every two. -/
def join (between : Text) (parts : List Text) : Text := between.intercalate parts

/-! ### Occurrences -/

/-- The text before and after the first occurrence of a pattern. -/
def cut? (pattern : Text) : Text → Option (Text × Text)
  | [] => if pattern = [] then some ([], []) else none
  | c :: rest =>
    if pattern.isPrefixOf (c :: rest) then some ([], (c :: rest).drop pattern.length)
    else (cut? pattern rest).map fun (before, after) => (c :: before, after)

/-- The text before and after the first occurrence of a character. -/
def cutChar? (d : Char) (s : Text) : Option (Text × Text) :=
  match s.dropWhile (· ≠ d) with
  | [] => none
  | _ :: after => some (s.takeWhile (· ≠ d), after)

/-- At most `count` parts of a text between occurrences of a pattern; the last part keeps
the occurrences in it. -/
def parts (pattern : Text) : Nat → Text → List Text
  | 0, _ => []
  | 1, s => [s]
  | count + 1, s =>
    match cut? pattern s with
    | some (before, after) => before :: parts pattern count after
    | none => [s]

/-! ### Letters of the basic alphabet -/

def isLetter (c : Char) : Bool := ('a' ≤ c && c ≤ 'z') || ('A' ≤ c && c ≤ 'Z')

def isDigit (c : Char) : Bool := '0' ≤ c && c ≤ '9'

def lowerLetter (c : Char) : Char :=
  if 'A' ≤ c && c ≤ 'Z' then Char.ofNat (c.toNat + 32) else c

/-- Lower case for the letters A to Z only. -/
def lowerLetters (s : Text) : Text := s.map lowerLetter

/-! ### Order -/

/-- The order of texts by their characters, which is also the order of their UTF-8 bytes. -/
def compare : Text → Text → Ordering
  | [], [] => .eq
  | [], _ :: _ => .lt
  | _ :: _, [] => .gt
  | a :: s, b :: t => if a < b then .lt else if b < a then .gt else compare s t

def le (s t : Text) : Bool := (s.compare t).isLE

end Text

end LatexReview
