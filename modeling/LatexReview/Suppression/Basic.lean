import LatexReview.Problem.Basic
import LatexReview.Event

/-!
Suppressions: which problems, on which lines, are not to be reported.
-/

namespace LatexReview

/-- A suppression covers the lines from `start` to `stop`, or to the end of the document
while it is open. -/
structure Suppression where
  kind : Suppression.Kind
  start : UInt32
  stop : Option UInt32
deriving DecidableEq

namespace Suppression

/-- A kind accepts the problems that it is about. -/
def Kind.accepts (kind : Kind) (p : Problem) : Bool :=
  match kind with
  | .lines => true
  | .module name => p.checker = name
  | .severity value => p.severity = value
  | .key value => p.key = value

def isOpen (s : Suppression) : Bool := s.stop = none

def covers (s : Suppression) (line : UInt32) : Bool :=
  s.start ≤ line && match s.stop with
    | some stop => line ≤ stop
    | none => true

/-- A problem without position is on no line: it is suppressed only by a kind with a value
that stays open to the end. -/
def suppresses (s : Suppression) (p : Problem) : Bool :=
  s.kind.accepts p && match p.line? with
    | some line => s.covers line
    | none => s.kind ≠ .lines && s.isOpen

end Suppression

end LatexReview
