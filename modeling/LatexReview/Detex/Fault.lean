import LatexReview.LineIndex

/-!
The structural errors of a LaTeX source.
-/

namespace LatexReview.Detex

/-- What is wrong with the structure of a source. -/
inductive Fault where
  | unmatchedClosingBrace
  | unclosedBrace
  | unclosedOption
  | unclosedDollar
  | unclosedDoubleDollar
  | unclosedParenMath
  | unclosedBracketMath
  /-- An environment is still open at the end. -/
  | unclosedEnvironment (name : Text)
  /-- An environment meets the end of another one. -/
  | crossedEnvironment (name closing : Text)
  /-- No environment is open where one ends. -/
  | strayEnd (name : Text)
deriving DecidableEq

/-- A command with its argument in braces. -/
def command (name argument : Text) : Text := '\\' :: name ++ '{' :: argument ++ ['}']

def Fault.message : Fault → Text
  | .unmatchedClosingBrace => "unmatched closing brace '\x7d'".toList
  | .unclosedBrace => "unclosed brace '\x7b'".toList
  | .unclosedOption => "unclosed optional argument '['".toList
  | .unclosedDollar => "unclosed inline math '$'".toList
  | .unclosedDoubleDollar => "unclosed display math '$$'".toList
  | .unclosedParenMath => "unclosed inline math '\\('".toList
  | .unclosedBracketMath => "unclosed display math '\\['".toList
  | .unclosedEnvironment name => "environment '".toList ++ name ++ "' is never closed".toList
  | .crossedEnvironment name closing =>
    "environment '".toList ++ name ++ "' is closed by '".toList ++
      command "end".toList closing ++ ['\'']
  | .strayEnd name =>
    '\'' :: command "end".toList name ++ "' without matching '\\begin'".toList

/-- A fault and the source offset at which it is reported. -/
structure Flaw where
  offset : Nat
  fault : Fault
deriving DecidableEq

/-- A fault and where it stands in the source. -/
structure ParseError where
  position : Option Position
  fault : Fault
deriving DecidableEq

def ParseError.message (e : ParseError) : Text := e.fault.message

def Flaw.place (lines : LineIndex) (flaw : Flaw) : ParseError :=
  ⟨lines.position? flaw.offset, flaw.fault⟩

end LatexReview.Detex
