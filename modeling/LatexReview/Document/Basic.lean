import LatexReview.Detex.Basic
import LatexReview.Document.Comment
import LatexReview.RunError

/-!
Documents: a LaTeX source with its path and its plain text.
-/

namespace LatexReview

structure Document where
  path : Path
  source : Text
  plain : Text
  parseErrors : List Detex.ParseError
  translator : Translator

namespace Document

def ofSource (path : Path) (source : Text) : Document :=
  let d := detex source
  ⟨path, source, d.plain, d.errors, d.translator source⟩

/-- Reads a document. What is no text in it is replaced. -/
def load (files : FileTree) (path : Path) : Except RunError Document :=
  match files.readBytes path with
  | .ok bytes => .ok (ofSource path (Text.ofBytesLossy bytes))
  | .error cause =>
    .error (.file ("Failed to read ".toList ++ path ++ ": ".toList ++ cause.message))

def sourceLines (d : Document) : LineIndex := d.translator.sourceLines

def position? (d : Document) (offset : Nat) : Option Position := d.sourceLines.position? offset

def isCommentedOut (d : Document) (offset : Nat) : Bool := Comment.covers (d.source.take offset)

/-! ### Byte offsets -/

/-- The number of characters before a byte offset, unless it lies in a character or beyond
the end. -/
def charsBefore? : Text → Nat → Option Nat
  | _, 0 => some 0
  | [], _ + 1 => none
  | c :: rest, bytes + 1 =>
    if c.utf8Size ≤ bytes + 1 then (charsBefore? rest (bytes + 1 - c.utf8Size)).map (· + 1)
    else none

def positionOfByte? (d : Document) (byte : Nat) : Option Position :=
  (charsBefore? d.source byte).bind d.position?

def isByteCommentedOut (d : Document) (byte : Nat) : Bool :=
  match charsBefore? d.source byte with
  | some offset => d.isCommentedOut offset
  | none => false

end Document

end LatexReview
