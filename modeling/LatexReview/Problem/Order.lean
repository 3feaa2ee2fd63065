import LatexReview.Problem.Basic

/-!
The order in which problems are shown: structural errors first, then what has no position,
then the rest from the top of the document to its end.
-/

namespace LatexReview.Problem

def displayRank (p : Problem) : Nat :=
  if p.isParseError then 0 else if p.position = none then 1 else 2

/-- No position comes before any. -/
def comparePlaces : Option Position → Option Position → Ordering
  | none, none => .eq
  | none, some _ => .lt
  | some _, none => .gt
  | some p, some q => p.compare q

/-- Rank, then place; checker, key and uid decide between problems at one place. -/
def displayCompare (p q : Problem) : Ordering :=
  (compare p.displayRank q.displayRank).then <|
    (comparePlaces p.position q.position).then <|
      (p.checker.compare q.checker).then <|
        (p.key.compare q.key).then (p.uid.compare q.uid)

def displayLe (p q : Problem) : Bool := (p.displayCompare q).isLE

def sortForDisplay (ps : List Problem) : List Problem := ps.mergeSort displayLe

end LatexReview.Problem
