import LatexReview.Event
import LatexReview.Problem.Basic
import LatexReview.Store.FileTree

/-!
Whitelists: files of keys whose problems are not to be reported, one key per line.

A whitelist is read once and then only grows, in memory and in its file alike.
-/

namespace LatexReview

inductive WhitelistError where
  | read (path : Path) (cause : IoError)
  | write (path : Path) (cause : IoError)
  /-- A key takes one line, and does not leave it blank. -/
  | invalidKey (key : Text)
deriving DecidableEq

def WhitelistError.message : WhitelistError → Text
  | .read path cause =>
    "Failed to read whitelist ".toList ++ path ++ ": ".toList ++ cause.message
  | .write path cause =>
    "Failed to write whitelist ".toList ++ path ++ ": ".toList ++ cause.message
  | .invalidKey key => "Invalid whitelist key ".toList ++ key.quoted

/-- The keys of a file. -/
structure Whitelist where
  path : Path
  keys : List Text
  /-- The last line of the file lacks its line break. -/
  unended : Bool

namespace Whitelist

def isReturn (c : Char) : Bool := c = '\r'

/-- The keys in a file's content: its lines that are not blank. -/
def keysOf (content : Text) : List Text :=
  ((content.lines.map (Text.dropEndWhile isReturn)).filter fun line => !Text.blank line).eraseDups

def ofContent (path : Path) (content : Text) : Whitelist :=
  ⟨path, keysOf content, content ≠ [] && content.getLast? ≠ some '\n'⟩

/-- Reads a whitelist. A missing file is an empty one. -/
def load (files : FileTree) (path : Path) : Except WhitelistError Whitelist :=
  match files.readText path with
  | .ok content => .ok (ofContent path content)
  | .error .notFound => .ok (ofContent path [])
  | .error cause => .error (.read path cause)

def contains (w : Whitelist) (key : Text) : Bool := key ∈ w.keys

/-- A key that fits on a line. -/
def isValid (key : Text) : Bool := !key.blank && '\n' ∉ key && '\r' ∉ key

/-- What is written to the file for a new key. -/
def entry (w : Whitelist) (key : Text) : Text :=
  (if w.unended then ['\n'] else []) ++ key ++ ['\n']

/-- A whitelist and the files around it. -/
structure State where
  whitelist : Whitelist
  files : FileTree

/-- Puts a key on the whitelist and into its file, and tells whether it was new. -/
def State.add (s : State) (key : Text) : Except WhitelistError Bool × State × List Event :=
  let w := s.whitelist
  if !isValid key then (.error (.invalidKey key), s, [])
  else if w.contains key then (.ok false, s, [])
  else match s.files.append w.path (w.entry key) with
    | .error cause => (.error (.write w.path cause), s, [])
    | .ok files =>
      (.ok true, ⟨{ w with keys := w.keys ++ [key], unended := false }, files⟩,
        [.whitelisted key])

/-- Adds keys up to the first one that fails, and counts the new ones. -/
def State.addAll (s : State) : List Text → Except WhitelistError Nat × State × List Event
  | [] => (.ok 0, s, [])
  | key :: rest =>
    match s.add key with
    | (.error e, s, events) => (.error e, s, events)
    | (.ok isNew, s, events) =>
      let (result, s, others) := s.addAll rest
      (result.map (· + if isNew then 1 else 0), s, events ++ others)

/-- The problems whose keys are not on the whitelist. -/
def filter (w : Whitelist) (ps : List Problem) : List Problem :=
  ps.filter fun p => !w.contains p.key

/-- The key of a word in a language, for spelling. -/
def wordKey (language word : Text) : Text := language ++ "/spelling/".toList ++ word

/-- The keys of the words in a word list, one word per line. -/
def wordlistKeys (wordlist language : Text) : List Text :=
  ((wordlist.lines.map Text.trim).filter (· ≠ [])).map (wordKey language)

end Whitelist

end LatexReview
