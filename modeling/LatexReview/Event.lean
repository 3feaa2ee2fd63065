import LatexReview.Severity
import LatexReview.Text.Numeral
import LatexReview.Text.Quoted

/-!
What happens in a run that is worth a line in the log.
-/

namespace LatexReview

/-- What a suppression tells problems apart by, beside their lines. -/
inductive Suppression.Kind where
  /-- All problems. -/
  | lines
  /-- The problems of one checker. -/
  | module (name : Text)
  /-- The problems of one severity. -/
  | severity (value : Severity)
  /-- The problems with one key. -/
  | key (value : Text)
deriving DecidableEq

/-- A kind with the value that it holds. -/
def Suppression.Kind.describe : Suppression.Kind → Text
  | .lines => "Lines".toList
  | .module name => "Module(".toList ++ name.quoted ++ [')']
  | .severity value => "Severity(".toList ++ value.title ++ [')']
  | .key value => "WhitelistKey(".toList ++ value.quoted ++ [')']

/-- An occurrence for the log. -/
inductive Event where
  /-- A checker gave a position to a problem without text. -/
  | positionDropped (checker : Text)
  | malformedDirective (number : UInt32) (line : Text)
  | unknownDirective (verb : Text) (number : UInt32) (line : Text)
  | unknownSeverity (name : Text) (number : UInt32)
  | alreadyIgnored (kind : Suppression.Kind) (number : UInt32)
  | notIgnored (kind : Suppression.Kind) (number : UInt32)
  | nothingIgnored (number : UInt32)
  | whitelisted (key : Text)
  /-- Problems left a set because their key was whitelisted. -/
  | removed (key : Text) (count : Nat)
  | noSuchProblem (uid : Text)
  | unknownModule (name : Text)
  | optionsForUnknownModule (name : Text)
deriving DecidableEq

namespace Event

inductive Level where
  | info
  | warn
deriving DecidableEq

def Level.name : Level → Text
  | .info => "INFO".toList
  | .warn => "WARN".toList

def level : Event → Level
  | .alreadyIgnored .. | .notIgnored .. | .nothingIgnored .. | .whitelisted .. | .removed .. =>
    .info
  | _ => .warn

def number (n : UInt32) : Text := Text.numeral n.toNat

def message : Event → Text
  | .positionDropped checker =>
    checker ++ " reported a position for an empty text, dropping the position".toList
  | .malformedDirective n line =>
    "Invalid syntax: could not parse directive in line ".toList ++ number n ++ ": ".toList ++
      line
  | .unknownDirective verb n line =>
    "Unknown directive '".toList ++ verb ++ "' in line ".toList ++ number n ++ ": ".toList ++
      line
  | .unknownSeverity name n =>
    "Invalid directive argument in line ".toList ++ number n ++ ": ".toList ++
      Severity.unknownMessage name
  | .alreadyIgnored kind n =>
    "Ignored 'begin-ignore' in line ".toList ++ number n ++ ": ".toList ++ kind.describe ++
      " is already being ignored".toList
  | .notIgnored kind n =>
    "Ignored 'end-ignore' in line ".toList ++ number n ++ ": ".toList ++ kind.describe ++
      " was not being ignored".toList
  | .nothingIgnored n =>
    "Ignored 'end-ignore' in line ".toList ++ number n ++
      ": nothing was being ignored".toList
  | .whitelisted key => "Whitelisted '".toList ++ key ++ ['\'']
  | .removed key count =>
    "Whitelisted '".toList ++ key ++ "', removed ".toList ++ Text.numeral count ++
      " problem(s)".toList
  | .noSuchProblem uid => "No problem with uid ".toList ++ uid.quoted ++ " to whitelist".toList
  | .unknownModule name => "Unknown module '".toList ++ name ++ ['\'']
  | .optionsForUnknownModule name =>
    "Configuration for unknown module '".toList ++ name ++ ['\'']

def render (e : Event) : Text := e.level.name ++ ' ' :: e.message

end Event

end LatexReview
