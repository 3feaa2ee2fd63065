import LatexReview.Text.Word
import LatexReview.Json.Number

/-!
The tokens of JSON with comments, read one character at a time.

Beside JSON's own, the dialect has comments, strings in single quotes, hexadecimal numbers,
plus signs and bare words.
-/

namespace LatexReview.Json

inductive Token where
  | openBrace
  | closeBrace
  | openBracket
  | closeBracket
  | comma
  | colon
  | null
  | bool (value : Bool)
  | string (value : Text)
  | number (text : Text)
  | word (text : Text)
deriving DecidableEq

namespace Token

/-- Where a number stands. -/
inductive Stage where
  | sign
  | zero
  | whole
  | hexMark
  | hex
  | point
  | fraction
  | exponentMark
  | exponentSign
  | exponent
deriving DecidableEq

/-- A number may end here. -/
def Stage.complete : Stage → Bool
  | .zero | .whole | .hex | .fraction | .exponent => true
  | _ => false

/-- The stage after a character that belongs to the number. -/
def Stage.next? (stage : Stage) (c : Char) : Option Stage :=
  let exponentOr (next : Option Stage) := if c = 'e' || c = 'E' then some .exponentMark else next
  let digitTo (next : Stage) := if Text.isDigit c then some next else none
  match stage with
  | .sign => if c = '0' then some .zero else digitTo .whole
  | .zero =>
    if c = 'x' || c = 'X' then some .hexMark
    else if c = '.' then some .point else exponentOr none
  | .whole => if c = '.' then some .point else exponentOr (digitTo .whole)
  | .hexMark | .hex => if (hexDigit? c).isSome then some .hex else none
  | .point => digitTo .fraction
  | .fraction => exponentOr (digitTo .fraction)
  | .exponentMark => if c = '+' || c = '-' then some .exponentSign else digitTo .exponent
  | .exponentSign | .exponent => digitTo .exponent

/-- What the scan is in the middle of. Letters and contents stand last character first. -/
inductive State where
  | between
  | slash
  | lineComment
  | blockComment
  /-- Just after a star in a block comment. -/
  | star
  | word (letters : Text)
  | number (stage : Stage) (text : Text)
  | string (quote : Char) (content : Text)
  /-- Just after a backslash in a string. -/
  | escape (quote : Char) (content : Text)
  /-- In an escape by code, perhaps the second one of a surrogate pair. -/
  | code (quote : Char) (content : Text) (high : Option Nat) (digits : Nat) (value : Nat)
  /-- Where the second escape of a surrogate pair starts; whether its backslash is read. -/
  | pair (quote : Char) (content : Text) (high : Nat) (backslash : Bool)

/-- A state after some characters, with the tokens that they complete. -/
abbrev Progress := State × List Token

def isHigh (n : Nat) : Bool := 0xD800 ≤ n && n < 0xDC00

def isLow (n : Nat) : Bool := 0xDC00 ≤ n && n < 0xE000

/-- A word with a meaning of its own. -/
def keyword? (letters : Text) : Option Token :=
  if letters = "true".toList then some (.bool true)
  else if letters = "false".toList then some (.bool false)
  else if letters = "null".toList then some .null
  else none

def ofWord (letters : Text) : Token := (keyword? letters).getD (.word letters)

def start (c : Char) : Option Progress :=
  if Text.isSpace c then some (.between, [])
  else match c with
    | '\x7b' => some (.between, [.openBrace])
    | '\x7d' => some (.between, [.closeBrace])
    | '[' => some (.between, [.openBracket])
    | ']' => some (.between, [.closeBracket])
    | ',' => some (.between, [.comma])
    | ':' => some (.between, [.colon])
    | '"' => some (.string '"' [], [])
    | '\'' => some (.string '\'' [], [])
    | '/' => some (.slash, [])
    | c =>
      if c = '-' || c = '+' then some (.number .sign [c], [])
      else if Text.isDigit c then (Stage.sign.next? c).map fun stage => (.number stage [c], [])
      else if c = '_' || Text.isAlphanumeric c then some (.word [c], [])
      else none

/-- Completes a token before a character that does not belong to it. -/
def complete (token : Token) (c : Char) : Option Progress :=
  (start c).map fun (state, tokens) => (state, token :: tokens)

/-- A word ends at white space, a colon or the end; one with a meaning of its own at any
character but a letter or digit. -/
def readWord (letters : Text) (c : Char) : Option Progress :=
  if Text.isSpace c || c = ':' then complete (ofWord letters.reverse) c
  else if Text.isAlphanumeric c then some (.word (c :: letters), [])
  else match keyword? letters.reverse with
    | some token => complete token c
    | none => if c = '-' || c = '_' then some (.word (c :: letters), []) else none

/-- A quote is escaped only in strings that it delimits. -/
def readEscape (quote : Char) (content : Text) (c : Char) : Option Progress :=
  let put (d : Char) : Option Progress := some (.string quote (d :: content), [])
  match c with
  | 'b' => put '\x08'
  | 'f' => put '\x0c'
  | 'n' => put '\n'
  | 'r' => put '\r'
  | 't' => put '\t'
  | '\\' => put '\\'
  | '/' => put '/'
  | 'u' => some (.code quote content none 0 0, [])
  | c => if c = quote then put c else none

/-- The end of an escape by code. Surrogates count in pairs only. -/
def endCode (quote : Char) (content : Text) (high : Option Nat) (value : Nat) :
    Option Progress :=
  match high with
  | some h =>
    if isLow value then
      some (.string quote
        (Char.ofNat (0x10000 + (h - 0xD800) * 0x400 + (value - 0xDC00)) :: content), [])
    else none
  | none =>
    if isHigh value then some (.pair quote content value false, [])
    else if isLow value then none
    else some (.string quote (Char.ofNat value :: content), [])

def step (state : State) (c : Char) : Option Progress :=
  match state with
  | .between => start c
  | .slash =>
    if c = '/' then some (.lineComment, [])
    else if c = '*' then some (.blockComment, [])
    else none
  | .lineComment => some (if c = '\n' then .between else .lineComment, [])
  | .blockComment => some (if c = '*' then .star else .blockComment, [])
  | .star =>
    some (if c = '/' then .between else if c = '*' then .star else .blockComment, [])
  | .word letters => readWord letters c
  | .number stage text =>
    match stage.next? c with
    | some next => some (.number next (c :: text), [])
    | none => if stage.complete then complete (.number text.reverse) c else none
  | .string quote content =>
    if c = quote then some (.between, [.string content.reverse])
    else if c = '\\' then some (.escape quote content, [])
    else some (.string quote (c :: content), [])
  | .escape quote content => readEscape quote content c
  | .code quote content high digits value => do
    let digit ← hexDigit? c
    let value := 16 * value + digit
    if digits < 3 then some (.code quote content high (digits + 1) value, [])
    else endCode quote content high value
  | .pair quote content high backslash =>
    if !backslash && c = '\\' then some (.pair quote content high true, [])
    else if backslash && c = 'u' then some (.code quote content (some high) 0 0, [])
    else none

/-- The tokens that the end of the text completes. -/
def finish : State → Option (List Token)
  | .between | .lineComment => some []
  | .word letters => some [ofWord letters.reverse]
  | .number stage text => if stage.complete then some [.number text.reverse] else none
  | _ => none

/-- The tokens of a text, read from a state. -/
def scan (state : State) : Text → Option (List Token)
  | [] => finish state
  | c :: rest => do
    let (next, tokens) ← step state c
    let others ← scan next rest
    return tokens ++ others

end Token

/-- The tokens of a text, if it has no malformed one. -/
def tokens? (s : Text) : Option (List Token) := Token.scan .between s

end LatexReview.Json
