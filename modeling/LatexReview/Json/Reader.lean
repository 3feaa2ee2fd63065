import LatexReview.Json.Token

/-!
Reading JSON with comments.

The reader takes one token at a time and keeps the arrays and objects that are still open
on a stack. Commas may be missing, and one may stand after the last item or member. Of
members with one name, the last one counts.
-/

namespace LatexReview.Json

/-- An array or object around the value that is being read. Items stand last one first. -/
inductive Frame where
  | array (items : List Json)
  | object (members : List (Text × Json)) (name : Text)

/-- What the reader has read, and so what may come next. -/
inductive Reader where
  /-- A value must start. -/
  | value (stack : List Frame)
  /-- An item may start, or the array end. -/
  | item (items : List Json) (stack : List Frame)
  /-- An item is complete. -/
  | afterItem (items : List Json) (stack : List Frame)
  /-- A member may start, or the object end. -/
  | member (members : List (Text × Json)) (stack : List Frame)
  /-- A member is complete. -/
  | afterMember (members : List (Text × Json)) (stack : List Frame)
  /-- The name of a member is read. -/
  | colon (members : List (Text × Json)) (name : Text) (stack : List Frame)
  /-- The whole value is read. -/
  | done (value : Json)

namespace Reader

/-- Hands a complete value to what stands around it. -/
def complete (v : Json) : List Frame → Reader
  | [] => .done v
  | .array items :: outer => .afterItem (v :: items) outer
  | .object members name :: outer => .afterMember (insert name v members) outer

/-- The first token of a value. -/
def begin (stack : List Frame) : Token → Option Reader
  | .openBrace => some (.member [] stack)
  | .openBracket => some (.item [] stack)
  | .null => some (complete .null stack)
  | .bool b => some (complete (.bool b) stack)
  | .string s => some (complete (.string s) stack)
  | .number text => some (complete (ofNumeral text) stack)
  | .closeBrace | .closeBracket | .comma | .colon | .word _ => none

def readItem (items : List Json) (stack : List Frame) : Token → Option Reader
  | .closeBracket => some (complete (.array items.reverse) stack)
  | token => begin (.array items :: stack) token

/-- A name is a string, a bare word, or the text of a number. -/
def readMember (members : List (Text × Json)) (stack : List Frame) : Token → Option Reader
  | .closeBrace => some (complete (.object members) stack)
  | .string name | .word name | .number name => some (.colon members name stack)
  | _ => none

def step (reader : Reader) (token : Token) : Option Reader :=
  match reader with
  | .value stack => begin stack token
  | .item items stack => readItem items stack token
  | .afterItem items stack =>
    if token = .comma then some (.item items stack) else readItem items stack token
  | .member members stack => readMember members stack token
  | .afterMember members stack =>
    if token = .comma then some (.member members stack) else readMember members stack token
  | .colon members name stack =>
    if token = .colon then some (.value (.object members name :: stack)) else none
  | .done _ => none

def run (reader : Reader) (tokens : List Token) : Option Reader := tokens.foldlM step reader

end Reader

/-- Reads a document. An empty one holds no value. -/
def read? (s : Text) : Option (Option Json) := do
  let tokens ← tokens? s
  if tokens = [] then some none
  else match ← Reader.run (.value []) tokens with
    | .done v => some (some v)
    | _ => none

end LatexReview.Json
