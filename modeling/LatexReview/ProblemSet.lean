import LatexReview.Problem.Order
import LatexReview.Whitelist

/-!
The live problems of a run. No two of them have one uid.
-/

namespace LatexReview

structure ProblemSet where
  problems : List Problem

namespace ProblemSet

def empty : ProblemSet := ⟨[]⟩

def get? (s : ProblemSet) (uid : Text) : Option Problem := s.problems.find? (·.uid = uid)

def size (s : ProblemSet) : Nat := s.problems.length

/-- Puts a problem in the place of the one with its uid, or at the end. -/
def insert (s : ProblemSet) (p : Problem) : ProblemSet :=
  let uid := p.uid
  if s.problems.any (·.uid = uid) then
    ⟨s.problems.map fun q => if q.uid = uid then p else q⟩
  else ⟨s.problems ++ [p]⟩

def extend (s : ProblemSet) (ps : List Problem) : ProblemSet := ps.foldl insert s

def ofList (ps : List Problem) : ProblemSet := empty.extend ps

def countKey (s : ProblemSet) (key : Text) : Nat := s.problems.countP (·.key = key)

def hasErrors (s : ProblemSet) : Bool := s.problems.any (·.severity = .error)

/-- Drops the problems whose keys are whitelisted. -/
def withoutWhitelisted (s : ProblemSet) (w : Whitelist) : ProblemSet := ⟨w.filter s.problems⟩

def sorted (s : ProblemSet) : List Problem := Problem.sortForDisplay s.problems

/-! ### Whitelisting -/

/-- The live problems, the whitelist, and the files around it. -/
structure State where
  live : ProblemSet
  whitelist : Whitelist.State

/-- Drops what is whitelisted, and counts it. -/
def State.applyWhitelist (s : State) : Nat × State :=
  let live := s.live.withoutWhitelisted s.whitelist.whitelist
  (s.live.size - live.size, { s with live })

/-- Whitelists the key of a problem, and drops all problems that share it. -/
def State.whitelistUid (s : State) (uid : Text) :
    Except WhitelistError Nat × State × List Event :=
  match s.live.get? uid with
  | none => (.ok 0, s, [.noSuchProblem uid])
  | some p =>
    match s.whitelist.add p.key with
    | (.error e, whitelist, events) => (.error e, { s with whitelist }, events)
    | (.ok _, whitelist, events) =>
      let (removed, s) := { s with whitelist : State }.applyWhitelist
      (.ok removed, s, events ++ [.removed p.key removed])

end ProblemSet

end LatexReview
