import LatexReview.Binary64

/-!
JSON values, and their two written forms.
-/

namespace LatexReview

/-- A number is an integer of 64 bits or a number of double precision. -/
inductive Json.Number where
  | integer (value : Int)
  | double (value : Binary64)
deriving DecidableEq

/-- A JSON value. The members of an object stand in the order in which they are written. -/
inductive Json where
  | null
  | bool (value : Bool)
  | number (value : Json.Number)
  | string (value : Text)
  | array (items : List Json)
  | object (members : List (Text × Json))

namespace Json

def nat (n : Nat) : Json := .number (.integer n)

/-- The members after `name` is given a value. Names are in order, each one once. -/
def insert (name : Text) (value : Json) : List (Text × Json) → List (Text × Json)
  | [] => [(name, value)]
  | (other, old) :: rest =>
    match name.compare other with
    | .lt => (name, value) :: (other, old) :: rest
    | .eq => (name, value) :: rest
    | .gt => (other, old) :: insert name value rest

/-! ### Text -/

/-- The text of an integer. -/
def integerText (n : Int) : Text :=
  if n < 0 then '-' :: Text.numeral n.natAbs else Text.numeral n.natAbs

def Number.render : Number → Text
  | .integer n => integerText n
  | .double x => x.render

/-- Two hexadecimal digits. -/
def hexPair (n : Nat) : Text := [Nat.digitChar (n / 16), Nat.digitChar (n % 16)]

def escapeChar (c : Char) : Text :=
  match c with
  | '"' => ['\\', '"']
  | '\\' => ['\\', '\\']
  | '\x08' => ['\\', 'b']
  | '\x0c' => ['\\', 'f']
  | '\n' => ['\\', 'n']
  | '\r' => ['\\', 'r']
  | '\t' => ['\\', 't']
  | c => if c.toNat < 0x20 then "\\u00".toList ++ hexPair c.toNat else [c]

def stringText (s : Text) : Text := '"' :: s.flatMap escapeChar ++ ['"']

mutual

/-- The text of a value without white space. -/
def compact : Json → Text
  | .null => "null".toList
  | .bool b => if b then "true".toList else "false".toList
  | .number n => n.render
  | .string s => stringText s
  | .array items => '[' :: compactItems items ++ [']']
  | .object members => '\x7b' :: compactMembers members ++ ['\x7d']

def compactItems : List Json → Text
  | [] => []
  | [v] => compact v
  | v :: rest => compact v ++ ',' :: compactItems rest

def compactMembers : List (Text × Json) → Text
  | [] => []
  | [(name, v)] => stringText name ++ ':' :: compact v
  | (name, v) :: rest => stringText name ++ ':' :: compact v ++ ',' :: compactMembers rest

end

/-- A line break and the indent of a depth. -/
def newline (depth : Nat) : Text := '\n' :: List.replicate (2 * depth) ' '

mutual

/-- The text of a value with each item and member on a line of its own. -/
def pretty (depth : Nat) : Json → Text
  | .array [] => "[]".toList
  | .object [] => ['\x7b', '\x7d']
  | .array items => '[' :: prettyItems (depth + 1) items ++ newline depth ++ [']']
  | .object members => '\x7b' :: prettyMembers (depth + 1) members ++ newline depth ++ ['\x7d']
  | .null => "null".toList
  | .bool b => if b then "true".toList else "false".toList
  | .number n => n.render
  | .string s => stringText s

def prettyItems (depth : Nat) : List Json → Text
  | [] => []
  | [v] => newline depth ++ pretty depth v
  | v :: rest => newline depth ++ pretty depth v ++ ',' :: prettyItems depth rest

def prettyMembers (depth : Nat) : List (Text × Json) → Text
  | [] => []
  | [(name, v)] => newline depth ++ stringText name ++ ": ".toList ++ pretty depth v
  | (name, v) :: rest =>
    newline depth ++ stringText name ++ ": ".toList ++ pretty depth v ++
      ',' :: prettyMembers depth rest

end

end Json

end LatexReview
