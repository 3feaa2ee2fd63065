import LatexReview.Text.Basic

/-!
What goes wrong with files and programs.
-/

namespace LatexReview

inductive IoError where
  | notFound
  | permissionDenied
  | alreadyPresent
  | notADirectory
  | isADirectory
  | nameTooLong
  /-- A path holds the null character. -/
  | nullInPath
  /-- A command or an argument holds the null character. -/
  | nullInCommand
  /-- A text was to be read from bytes that are none. -/
  | malformedText
  | other (text : Text)
deriving DecidableEq

def IoError.message : IoError → Text
  | .notFound => "No such file or directory (os error 2)".toList
  | .permissionDenied => "Permission denied (os error 13)".toList
  | .alreadyPresent => "File exists (os error 17)".toList
  | .notADirectory => "Not a directory (os error 20)".toList
  | .isADirectory => "Is a directory (os error 21)".toList
  | .nameTooLong => "File name too long (os error 36)".toList
  | .nullInPath => "file name contained an unexpected NUL byte".toList
  | .nullInCommand => "nul byte found in provided data".toList
  | .malformedText => "stream did not contain valid UTF-8".toList
  | .other text => text

end LatexReview
