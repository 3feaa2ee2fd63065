import LatexReview.Suppression.Directive

/-!
The record of a document's suppressions, kept line by line.

A directive starts and stops suppressions. At most one of each kind is open at a time, and
the record knows its place among all of them.
-/

namespace LatexReview.Suppression

/-- All suppressions so far, and where among them the open one of each kind stands. -/
structure Record where
  suppressions : List Suppression
  openPlaces : List (Kind × Nat)
deriving DecidableEq

namespace Record

def empty : Record := ⟨[], []⟩

def place? (r : Record) (kind : Kind) : Option Nat := r.openPlaces.lookup kind

/-- The line after, but for the last possible one. -/
def nextLine (line : UInt32) : UInt32 := if line = 0xFFFFFFFF then line else line + 1

/-- The line before, but for the first possible one. -/
def previousLine (line : UInt32) : UInt32 := if line = 0 then line else line - 1

/-- A line further down, but none beyond the last possible one. -/
def lineBelow (line count : UInt32) : UInt32 :=
  if line.toNat + count.toNat < UInt32.size then line + count else 0xFFFFFFFF

def start (r : Record) (kind : Kind) (line : UInt32) : Record × List Event :=
  match r.place? kind with
  | some _ => (r, [.alreadyIgnored kind line])
  | none =>
    (⟨r.suppressions ++ [⟨kind, nextLine line, none⟩],
      r.openPlaces ++ [(kind, r.suppressions.length)]⟩, [])

def stop (r : Record) (kind : Kind) (line : UInt32) : Record × List Event :=
  match r.place? kind with
  | some place =>
    (⟨r.suppressions.modify place fun s => { s with stop := some (previousLine line) },
      r.openPlaces.filter (·.1 ≠ kind)⟩, [])
  | none => (r, [.notIgnored kind line])

/-- What a stop without qualifier is about: the lines, if all their problems are ignored,
or else the kind that was started last. -/
def latest? (r : Record) : Option Kind :=
  match r.place? .lines with
  | some _ => some .lines
  | none =>
    (r.openPlaces.foldl (fun best entry =>
      match best with
      | some other => if other.2 < entry.2 then some entry else best
      | none => some entry) (none : Option (Kind × Nat))).map (·.1)

def stopLatest (r : Record) (line : UInt32) : Record × List Event :=
  match r.latest? with
  | some kind => r.stop kind line
  | none => (r, [.nothingIgnored line])

/-- Does something for each kind, in turn. -/
def forEach (act : Record → Kind → Record × List Event) :
    Record → List Kind → Record × List Event
  | r, [] => (r, [])
  | r, kind :: rest =>
    let (r, events) := act r kind
    let (r, others) := forEach act r rest
    (r, events ++ others)

def obey (r : Record) (directive : Directive) (line : UInt32) : Record × List Event :=
  match directive with
  | .next count =>
    ({ r with suppressions :=
        r.suppressions ++ [⟨.lines, nextLine line, some (lineBelow line count)⟩] }, [])
  | .start kinds => r.forEach (fun r kind => r.start kind line) kinds
  | .stop kinds => r.forEach (fun r kind => r.stop kind line) kinds
  | .stopLatest => r.stopLatest line

/-- Reads a line of a document. A line without directive leaves the record as it is. -/
def readLine (r : Record) (text : Text) (line : UInt32) : Record × List Event :=
  match Command.ofLine? text with
  | none => (r, [])
  | some command =>
    match command.read with
    | .ok reading =>
      let (r, events) := r.obey reading.directive line
      (r, reading.unknown.map (.unknownSeverity · line) ++ events)
    | .error .unknownVerb => (r, [.unknownDirective command.verb line text])
    | .error .malformedArguments => (r, [.malformedDirective line text])

/-- Reads lines of which the first one has the given number. -/
def readLines (r : Record) (first : Nat) : List Text → Record × List Event
  | [] => (r, [])
  | text :: rest =>
    let (r, events) := r.readLine text (.ofNat first)
    let (r, others) := readLines r (first + 1) rest
    (r, events ++ others)

def ofSource (source : Text) : Record × List Event := empty.readLines 1 source.lines

def suppresses (r : Record) (p : Problem) : Bool := r.suppressions.any (·.suppresses p)

/-- The problems that are to be reported. -/
def apply (r : Record) (ps : List Problem) : List Problem :=
  ps.filter fun p => !r.suppresses p

end Record

end LatexReview.Suppression
