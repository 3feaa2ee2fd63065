import LatexReview.Checker.Basic

/-!
The checker that has `aspell` look at the plain text of a document.

`aspell` answers each line of its input by a record for each word, and an empty line.
-/

namespace LatexReview.Aspell

def checkerName : Text := "Aspell".toList

/-- The input: each line after a sign that keeps it from being a command. -/
def input (plain : Text) : Text := plain.lines.flatMap fun line => '^' :: line ++ ['\n']

/-- A word that is not known, its offset in the input line, and what might be meant. -/
structure Miss where
  word : Text
  offset : Nat
  suggestions : List Text
deriving DecidableEq

/-- A line of the answer. -/
inductive Reply where
  /-- The end of the answers to a line. -/
  | lineEnd
  /-- Nothing to report. -/
  | pass
  | miss (miss : Miss)
deriving DecidableEq

/-- `& word count offset: suggestion, suggestion` -/
def missWithSuggestions? (line : Text) : Option Miss := do
  let (head, suggestions) ← Text.cutChar? ':' line
  match Text.words head with
  | [_, word, _, offset] =>
    let offset ← Text.readNumeral? UInt64.size offset
    some ⟨word, offset, ((suggestions.splitOn ',').map Text.trim).filter (· ≠ [])⟩
  | _ => none

/-- `# word offset` -/
def missAlone? (line : Text) : Option Miss := do
  match Text.words line with
  | [_, word, offset] =>
    let offset ← Text.readNumeral? UInt64.size offset
    some ⟨word, offset, []⟩
  | _ => none

def Reply.ofLine (line : Text) : Except Failure Reply :=
  let orMalformed (miss : Option Miss) : Except Failure Reply :=
    match miss with
    | some miss => .ok (.miss miss)
    | none => .error (.malformedOutput ("invalid aspell record: ".toList ++ line))
  match line with
  | [] => .ok .lineEnd
  | '@' :: _ | '*' :: _ | '+' :: _ | '-' :: _ => .ok .pass
  | '&' :: _ => orMalformed (missWithSuggestions? line)
  | '#' :: _ => orMalformed (missAlone? line)
  | _ => .error (.malformedOutput ("unexpected aspell record: ".toList ++ line))

/-- The plain offset of a miss in a line. The sign before the line counts as a character. -/
def plainOffset (start : Nat) (m : Miss) : Nat := start + (m.offset - 1)

/-- The position of a miss in a line of the plain text. -/
def position? (d : Document) (line : Nat) (m : Miss) : Option Position := do
  let start ← d.translator.plainLines.lineStart? line
  d.translator.position? (plainOffset start m)

/-- The offset of a miss does not fit a word. -/
def overflows (d : Document) (line : Nat) (m : Miss) : Bool :=
  match d.translator.plainLines.lineStart? line with
  | some start => UInt64.size ≤ plainOffset start m
  | none => false

def draft (c : Config) (d : Document) (line : Nat) (m : Miss) : Problem.Draft where
  checker := checkerName
  text := m.word
  file := d.path
  position := position? d line m
  problemType := "spelling".toList
  category := some "spelling".toList
  severity := .error
  description := some ("Possible spelling mistake: '".toList ++ m.word ++ "'.".toList)
  suggestions := m.suggestions
  key := some ("spelling/".toList ++ m.word)
  language := c.language?

/-- The outcome of reading the lines of an answer, from the given line of the plain text
on. -/
def readFrom (c : Config) (d : Document) (line : Nat) : List Text → Outcome
  | [] => .found []
  | reply :: rest =>
    match Reply.ofLine reply with
    | .error f => .failed f
    | .ok .lineEnd => if line + 1 < UInt32.size then readFrom c d (line + 1) rest else .crashed
    | .ok .pass => readFrom c d line rest
    | .ok (.miss m) =>
      if overflows d line m then .crashed
      else match readFrom c d line rest with
        | .found ps => .found ((draft c d line m).build :: ps)
        | other => other

/-- The outcome of reading an answer. -/
def read (c : Config) (d : Document) (answer : Text) : Outcome := readFrom c d 1 answer.lines

/-- The language to check: the option of the module, or that of the document. -/
def language (c : Config) : Text :=
  ((c.moduleText? checkerName "lang".toList).or c.language?).getD "en".toList

def arguments (c : Config) : List Text := ["-a".toList, "--lang=".toList ++ language c]

def run (c : Config) (env : Environment) (d : Document) : Trial :=
  match env.findExecutable "aspell".toList with
  | .error f => ⟨.failed f, []⟩
  | .ok program =>
    match env.run program (arguments c) (input d.plain) c.toolTimeout with
    | (.error f, calls) => ⟨.failed f, calls⟩
    | (.ok o, calls) =>
      match o.ensureSuccess checkerName with
      | .error f => ⟨.failed f, calls⟩
      | .ok o => ⟨read c d o.stdout, calls⟩

def checker : Checker := ⟨checkerName, run⟩

end LatexReview.Aspell
