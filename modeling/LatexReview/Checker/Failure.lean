import LatexReview.Duration
import LatexReview.Store.IoError

/-!
Why a checker has no result.
-/

namespace LatexReview

/-- How a checker fails. -/
inductive Failure where
  | executableNotFound (name : Text)
  | process (program status stderr : Text)
  | timeout (program : Text) (limit : Duration)
  | malformedOutput (text : Text)
  | io (cause : IoError)
deriving DecidableEq

def Failure.message : Failure → Text
  | .executableNotFound name => "executable '".toList ++ name ++ "' not found in PATH".toList
  | .process program status stderr =>
    '\'' :: program ++ "' failed with ".toList ++ status ++ ": ".toList ++ stderr
  | .timeout program limit =>
    '\'' :: program ++ "' did not finish within ".toList ++ limit.render
  | .malformedOutput text => "malformed output: ".toList ++ text
  | .io cause => "I/O error: ".toList ++ cause.message

end LatexReview
