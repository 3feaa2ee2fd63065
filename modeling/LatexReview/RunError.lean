import LatexReview.Whitelist

/-!
What ends a run before its result.
-/

namespace LatexReview

inductive RunError where
  | config (text : Text)
  | file (text : Text)
  | whitelist (cause : WhitelistError)
  | io (cause : IoError)
deriving DecidableEq

def RunError.message : RunError → Text
  | .config text => "Configuration error: ".toList ++ text
  | .file text => "File error: ".toList ++ text
  | .whitelist cause => "Whitelist error: ".toList ++ cause.message
  | .io cause => "I/O error: ".toList ++ cause.message

end LatexReview
