import LatexReview.Text.Case

/-!
The entries of a bibliography file.

An entry is `@kind{id, name = value, ...}`, or the same in parentheses. Comments, string
definitions, preambles and malformed entries are passed over.
-/

namespace LatexReview.Bibliography

/-- An entry. Names of fields are in lower case, values as they stand. -/
structure Entry where
  kind : Text
  id : Text
  fields : List (Text × Text)
deriving DecidableEq

def Entry.field? (e : Entry) (name : Text) : Option Text := e.fields.lookup name

/-! ### Bodies -/

/-- The depth of braces, and whether a quotation is open, at a place in a body. -/
structure Nesting where
  depth : Nat
  quoted : Bool

def Nesting.none : Nesting := ⟨0, false⟩

/-- A place outside braces and quotations. -/
def Nesting.isTop (n : Nesting) : Bool := n.depth = 0 && !n.quoted

/-- Quotes count outside braces only. -/
def Nesting.step (n : Nesting) (c : Char) : Nesting :=
  match c with
  | '{' => { n with depth := n.depth + 1 }
  | '}' => { n with depth := n.depth - 1 }
  | '"' => if n.depth = 0 then { n with quoted := !n.quoted } else n
  | _ => n

/-- The text up to the closing delimiter at the top, and the text from there on. -/
def splitBody? (close : Char) (n : Nesting) : Text → Option (Text × Text)
  | [] => none
  | c :: rest =>
    if c = close ∧ n.isTop then some ([], c :: rest)
    else (splitBody? close (n.step c) rest).map fun (body, rest) => (c :: body, rest)

/-- The parts of a body between commas at the top. -/
def splitParts (n : Nesting) : Text → List Text
  | [] => [[]]
  | c :: rest =>
    if c = ',' ∧ n.isTop then [] :: splitParts n rest
    else match splitParts (n.step c) rest with
      | [] => [[c]]
      | part :: parts => (c :: part) :: parts

/-- The parts of a body; a blank last one does not count. -/
def parts (body : Text) : List Text :=
  let parts := splitParts .none body
  if (parts.getLastD []).blank then parts.dropLast else parts

/-- A field from a part of a body. -/
def field? (part : Text) : Option (Text × Text) := do
  let (name, value) ← Text.cutChar? '=' part
  let name := name.trim.lower
  if name = [] then none else some (name, value.trim)

/-- The entry of a kind with a body. -/
def readBody? (kind body : Text) : Option Entry :=
  match parts body with
  | [] => none
  | first :: rest =>
    let id := first.trim
    if id = [] || '=' ∈ id then none else some ⟨kind, id, rest.filterMap field?⟩

/-! ### Files -/

def isOpening (c : Char) : Bool := c = '\x7b' || c = '('

def closing (opening : Char) : Char := if opening = '\x7b' then '\x7d' else ')'

/-- The kinds that are no entries. -/
def otherKinds : List Text := ["comment".toList, "string".toList, "preamble".toList]

def isEntryKind (kind : Text) : Bool :=
  kind ≠ [] && kind.all (fun c => Text.isLetter c || Text.isDigit c) && kind ∉ otherKinds

/-- The block after an at sign: its kind, its body, and the text from its end on. -/
def block? (s : Text) : Option (Text × Text × Text) :=
  match s.dropWhile (!isOpening ·) with
  | [] => none
  | opening :: inner =>
    (splitBody? (closing opening) .none inner).map fun (body, rest) =>
      (Text.lower (Text.trim (s.takeWhile (!isOpening ·))), body, rest)

theorem splitBody?_length_le {close : Char} {n : Nesting} {s body rest : Text}
    (h : splitBody? close n s = some (body, rest)) : rest.length ≤ s.length := by
  induction s generalizing n body with
  | nil => simp [splitBody?] at h
  | cons c s ih =>
    simp only [splitBody?] at h
    split at h
    · cases h; simp
    · simp only [Option.map_eq_some_iff] at h
      obtain ⟨⟨b, r⟩, hb, he⟩ := h
      simp only [Prod.mk.injEq] at he
      obtain ⟨-, rfl⟩ := he
      have := ih hb
      simp only [List.length_cons]
      omega

theorem block?_length_le {s kind body rest : Text} (h : block? s = some (kind, body, rest)) :
    rest.length ≤ s.length := by
  unfold block? at h
  have hd : (s.dropWhile (!isOpening ·)).length ≤ s.length := (List.dropWhile_sublist _).length_le
  split at h
  · cases h
  · next hs =>
    simp only [Option.map_eq_some_iff] at h
    obtain ⟨⟨b, r⟩, hb, he⟩ := h
    simp only [Prod.mk.injEq] at he
    obtain ⟨-, -, rfl⟩ := he
    have := splitBody?_length_le hb
    rw [hs] at hd
    simp only [List.length_cons] at hd
    omega

/-- The entries of a file. A block without end ends the reading. -/
def entries (s : Text) : List Entry :=
  match s with
  | [] => []
  | '@' :: rest =>
    match _h : block? rest with
    | none => []
    | some (kind, body, after) =>
      let others := entries after
      if isEntryKind kind then
        match readBody? kind body with
        | some e => e :: others
        | none => others
      else others
  | _ :: rest => entries rest
termination_by s.length
decreasing_by
  · have := block?_length_le _h
    simp only [List.length_cons]
    omega
  · simp

end LatexReview.Bibliography
