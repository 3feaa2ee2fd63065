import LatexReview.Suppression.Basic

/-!
Directives: comments by which a document turns suppressions on and off.

A directive is a comment `% buddy verb arguments` that starts its line.
-/

namespace LatexReview.Suppression

/-- The verb and the arguments of a directive, as they stand in a line. -/
structure Command where
  verb : Text
  arguments : List Text
deriving DecidableEq

/-- The command in a line. At most one space may stand between the comment sign and the
signal word, and some must stand before the verb. -/
def Command.ofLine? (line : Text) : Option Command := do
  let comment ← Text.stripStart? line.trimStart ['%']
  let signal := "buddy".toList
  let rest ←
    match comment with
    | c :: rest =>
      if Text.isSpace c then Text.stripStart? rest signal else Text.stripStart? comment signal
    | [] => none
  let spaces := rest.takeWhile Text.isSpace
  let body := rest.dropWhile Text.isSpace
  let verb := body.takeWhile (!Text.isSpace ·)
  let arguments := body.dropWhile (!Text.isSpace ·)
  if spaces = [] || verb = [] || '\n' ∈ arguments then none
  else some ⟨verb, Text.words arguments⟩

/-- What a directive asks for. -/
inductive Directive where
  /-- To ignore the next lines. -/
  | next (count : UInt32)
  | start (kinds : List Kind)
  | stop (kinds : List Kind)
  /-- To end what was started last. -/
  | stopLatest
deriving DecidableEq

/-- A reading of a directive, with the names of unknown severities in it. -/
structure Reading where
  directive : Directive
  unknown : List Text := []

/-- `line`, `1 line`, `5 lines`, or nothing for one line. -/
def lineCount? (arguments : List Text) : Option UInt32 :=
  match arguments with
  | [] => some 1
  | [unit] => if unit = "line".toList then some 1 else none
  | [count, unit] =>
    if unit = "line".toList || unit = "lines".toList then
      match Text.readNumeral? UInt32.size count with
      | some n => if n = 0 then none else some (.ofNat n)
      | none => none
    else none
  | _ => none

/-- A qualifier and at least one value, or nothing for all problems. Values that name no
severity are left out. -/
def kinds? (arguments : List Text) : Option (List Kind × List Text) :=
  match arguments with
  | [] => some ([.lines], [])
  | [_] => none
  | qualifier :: values =>
    if qualifier = "module".toList || qualifier = "modules".toList then
      some (values.map .module, [])
    else if qualifier = "severity".toList || qualifier = "severities".toList then
      some ((values.filterMap Severity.parse?).map .severity,
        values.filter fun value => (Severity.parse? value).isNone)
    else if qualifier = "whitelist-key".toList || qualifier = "whitelist-keys".toList then
      some (values.map .key, [])
    else none

/-- Why a command is no directive. -/
inductive CommandError where
  | unknownVerb
  | malformedArguments
deriving DecidableEq

def Command.read (command : Command) : Except CommandError Reading :=
  let withKinds (make : List Kind → Directive) : Except CommandError Reading :=
    match kinds? command.arguments with
    | some (kinds, unknown) => .ok ⟨make kinds, unknown⟩
    | none => .error .malformedArguments
  if command.verb = "ignore-next".toList then
    match lineCount? command.arguments with
    | some count => .ok ⟨.next count, []⟩
    | none => .error .malformedArguments
  else if command.verb = "begin-ignore".toList then withKinds .start
  else if command.verb = "end-ignore".toList then
    if command.arguments = [] then .ok ⟨.stopLatest, []⟩ else withKinds .stop
  else .error .unknownVerb

end LatexReview.Suppression
