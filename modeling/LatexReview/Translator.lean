import LatexReview.LineIndex

/-!
Translation of places in a plain text to places in the source it was made from.

The char map holds, for each plain character, the source offset of what produced it, or
nothing for generated text; one more entry may stand for the end.
-/

namespace LatexReview

/-- A char map between a source and a plain text. -/
structure Translator where
  charMap : List (Option Nat)
  sourceLines : LineIndex
  plainLines : LineIndex

/-- Why a plain place has no source place. -/
inductive TranslationError where
  | outOfRange (line column : UInt32)
  | unmapped (line column : UInt32) (offset : Nat)
deriving DecidableEq

def TranslationError.message : TranslationError → Text
  | .outOfRange line column =>
    "position ".toList ++ (Position.mk line column).render ++
      " is outside of the plain text".toList
  | .unmapped line column offset =>
    "position ".toList ++ (Position.mk line column).render ++ " (offset ".toList ++
      Text.numeral offset ++ ") has no source mapping".toList

namespace Translator

def ofMap (source plain : Text) (charMap : List (Option Nat)) : Translator :=
  ⟨charMap, .ofText source, .ofText plain⟩

/-- For a plain text that is its source. -/
def identity (s : Text) : Translator :=
  ofMap s s ((List.range (s.length + 1)).map some)

/-- The source position of a plain offset. -/
def position? (t : Translator) (offset : Nat) : Option Position := do
  let entry ← t.charMap[offset]?
  t.sourceLines.position? (← entry)

/-- The source position of a plain line and column. -/
def locate (t : Translator) (line column : UInt32) : Except TranslationError Position :=
  match t.plainLines.offset? ⟨line, column⟩ with
  | none => .error (.outOfRange line column)
  | some offset =>
    match t.position? offset with
    | none => .error (.unmapped line column offset)
    | some p => .ok p

end Translator

end LatexReview
