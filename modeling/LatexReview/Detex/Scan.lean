import LatexReview.Detex.Command
import LatexReview.Detex.Fault

/-!
Reading the prose of a LaTeX source, as a one-pass scan.

A phase says what the scan is in the middle of. Each character is read in the phase of the
moment, and may be written out, with the offset of the character or command behind it.
-/

namespace LatexReview.Detex

/-- What the name in a group is read for. -/
inductive Use where
  | ignored
  | opens (start : Nat)
  | closes (start : Nat)
deriving DecidableEq

/-- What the scan is in the middle of. -/
inductive Phase where
  | prose
  | comment
  /-- Just after a backslash. -/
  | escape (start : Nat)
  /-- In the name of a command, its last letter first. -/
  | name (start : Nat) (letters : Text)
  /-- In the spaces after a command without argument. -/
  | gap
  /-- Where a bracket opens an optional argument. -/
  | options
  | option (opening depth : Nat)
  /-- Where a brace opens an argument; spaces may come before it. -/
  | argument (use : Use)
  /-- In an argument, its last character first. -/
  | group (use : Use) (opening depth : Nat) (content : Text)
  /-- Just after a dollar sign. -/
  | dollar (start : Nat)
  | math (start : Nat)
  /-- Just after a backslash in math. -/
  | mathEscape (start : Nat)
  /-- On the way to a terminator; the characters passed, the last one first. -/
  | skip (start : Nat) (terminator : Text) (fault : Fault) (passed : Text)
deriving DecidableEq

/-- The scan after some of the source. Open braces and environments stand innermost first. -/
structure State where
  offset : Nat
  phase : Phase
  out : Array (Char × Nat)
  flaws : Array Flaw
  braces : List Nat
  environments : List (Text × Nat)

def init : State := ⟨0, .prose, #[], #[], [], []⟩

namespace State

def enter (s : State) (phase : Phase) : State := { s with phase }

/-- Writes a character that the source at `origin` produced. -/
def emit (s : State) (c : Char) (origin : Nat) : State := { s with out := s.out.push (c, origin) }

def emitAll (s : State) (text : Text) (origin : Nat) : State :=
  text.foldl (fun s c => s.emit c origin) s

def report (s : State) (offset : Nat) (fault : Fault) : State :=
  { s with flaws := s.flaws.push ⟨offset, fault⟩ }

/-! ### Environments -/

def openEnvironment (s : State) (name : Text) (start : Nat) : State :=
  if name ∈ mathEnvironments then
    s.enter (.skip start (command "end".toList name) (.unclosedEnvironment name) [])
  else { s.enter .prose with environments := (name, start) :: s.environments }

/-- The end of an environment closes the innermost one. If that has another name, it is
closed along with it up to the one of the right name, or stays open if there is none. -/
def closeEnvironment (s : State) (name : Text) (start : Nat) : State :=
  match s.environments with
  | [] => (s.enter .prose).report start (.strayEnd name)
  | (inner, opening) :: outer =>
    if inner = name then { s.enter .prose with environments := outer }
    else
      let s := (s.enter .prose).report start (.crossedEnvironment inner name)
      match outer.dropWhile (·.1 ≠ name) with
      | [] => { s with environments := (inner, opening) :: outer }
      | _ :: rest => { s with environments := rest }

/-! ### Commands -/

def endName (s : State) (start : Nat) (name : Text) : State :=
  match Role.ofName name with
  | .opens => s.enter (.argument (.opens start))
  | .closes => s.enter (.argument (.closes start))
  | .expands text => (s.enter .prose).emitAll text start
  | .skips => s.enter .options
  | .vanishes => s.enter .gap

def endGroup (s : State) (use : Use) (content : Text) : State :=
  match use with
  | .ignored => s.enter .prose
  | .opens start => s.openEnvironment content start
  | .closes start => s.closeEnvironment content start

/-! ### One character -/

def prose (s : State) (c : Char) : State :=
  let s := s.enter .prose
  match c with
  | '%' => s.enter .comment
  | '\\' => s.enter (.escape s.offset)
  | '{' => { s with braces := s.offset :: s.braces }
  | '}' =>
    match s.braces with
    | [] => s.report s.offset .unmatchedClosingBrace
    | _ :: outer => { s with braces := outer }
  | '$' => s.enter (.dollar s.offset)
  | '~' => s.emit ' ' s.offset
  | c => s.emit c s.offset

def isGap (c : Char) : Bool := c = ' ' || c = '\t'

def gap (s : State) (c : Char) : State :=
  if isGap c then s.enter .gap else s.prose c

def argument (s : State) (use : Use) (c : Char) : State :=
  if isGap c then s.enter (.argument use)
  else if c = '{' then s.enter (.group use s.offset 1 [])
  else s.prose c

def options (s : State) (c : Char) : State :=
  if c = '[' then s.enter (.option s.offset 1) else s.argument .ignored c

/-- The character after a command, which it may belong to. -/
def resume (s : State) (c : Char) : State :=
  match s.phase with
  | .gap => s.gap c
  | .options => s.options c
  | .argument use => s.argument use c
  | _ => s.prose c

def escape (s : State) (start : Nat) (c : Char) : State :=
  if Text.isLetter c then s.enter (.name start [c])
  else if c = '(' then s.enter (.skip start "\\)".toList .unclosedParenMath [])
  else if c = '[' then s.enter (.skip start "\\]".toList .unclosedBracketMath [])
  else
    let s := s.enter .prose
    if c = '\\' || c = ' ' then s.emit ' ' start
    else if c ∈ escapable then s.emit c start
    else s

def name (s : State) (start : Nat) (letters : Text) (c : Char) : State :=
  if Text.isLetter c then s.enter (.name start (c :: letters))
  else if c = '*' then s.endName start (c :: letters).reverse
  else (s.endName start letters.reverse).resume c

def option (s : State) (opening depth : Nat) (c : Char) : State :=
  if c = '[' then s.enter (.option opening (depth + 1))
  else if c = ']' then
    if depth ≤ 1 then s.enter .options else s.enter (.option opening (depth - 1))
  else s

def group (s : State) (use : Use) (opening depth : Nat) (content : Text) (c : Char) : State :=
  if c = '{' then s.enter (.group use opening (depth + 1) (c :: content))
  else if c = '}' then
    if depth ≤ 1 then s.endGroup use content.reverse
    else s.enter (.group use opening (depth - 1) (c :: content))
  else s.enter (.group use opening depth (c :: content))

def math (s : State) (start : Nat) (c : Char) : State :=
  if c = '\\' then s.enter (.mathEscape start)
  else if c = '$' then s.enter .prose
  else s.enter (.math start)

def skip (s : State) (start : Nat) (terminator : Text) (fault : Fault) (passed : Text)
    (c : Char) : State :=
  let passed := c :: passed
  if terminator.reverse.isPrefixOf passed then s.enter .prose
  else s.enter (.skip start terminator fault passed)

end State

/-- Reads a character in the phase of the moment. -/
def read (s : State) (c : Char) : State :=
  match s.phase with
  | .prose => s.prose c
  | .comment => if c = '\n' then s.prose c else s
  | .escape start => s.escape start c
  | .name start letters => s.name start letters c
  | .gap => s.gap c
  | .options => s.options c
  | .option opening depth => s.option opening depth c
  | .argument use => s.argument use c
  | .group use opening depth content => s.group use opening depth content c
  | .dollar start =>
    if c = '$' then s.enter (.skip start "$$".toList .unclosedDoubleDollar [])
    else s.math start c
  | .math start => s.math start c
  | .mathEscape start => s.enter (.math start)
  | .skip start terminator fault passed => s.skip start terminator fault passed c

def step (s : State) (c : Char) : State :=
  let s := read s c
  { s with offset := s.offset + 1 }

def run (s : State) (source : Text) : State := source.foldl step s

@[simp] theorem run_nil (s : State) : run s [] = s := rfl
@[simp] theorem run_cons (s : State) (c : Char) (rest : Text) :
    run s (c :: rest) = run (step s c) rest := rfl
theorem run_append (s : State) (a b : Text) : run s (a ++ b) = run (run s a) b := by
  simp [run, List.foldl_append]

/-! ### The end of the source -/

/-- Settles what the end of the source cuts short. -/
def State.settle (s : State) : State :=
  match s.phase with
  | .name start letters => s.endName start letters.reverse
  | .option opening _ => s.report opening .unclosedOption
  | .group _ opening _ _ => s.report opening .unclosedBrace
  | .dollar start | .math start | .mathEscape start => s.report start .unclosedDollar
  | .skip start _ fault _ => s.report start fault
  | _ => s

/-- What is still open at the end: braces first, then environments, each outermost first. -/
def State.openFlaws (s : State) : List Flaw :=
  s.braces.reverse.map (⟨·, .unclosedBrace⟩) ++
    s.environments.reverse.map fun (name, start) => ⟨start, .unclosedEnvironment name⟩

end LatexReview.Detex
