import Mathlib
import LatexReview.Proofs.Bibliography.Nesting
import LatexReview.Proofs.Text.Case

/-!
Bibliographies as they are written, and read.

A file is a row of texts, entries and other blocks. An entry has any space around its parts, and
values in braces, in quotes or bare. Whatever it looks like, reading it gives what was written.
-/

namespace LatexReview.Bibliography

open Text
open Detex.State (nested)

/-! ### Parts with space around them -/

abbrev Space := { s : Text // s.blank = true }

structure Spaced (α : Type) where
  before : Space
  inner : α
  after : Space

namespace Spaced

variable {α : Type} {write : α → Text} {c : Char}

def render (write : α → Text) (s : Spaced α) : Text :=
  s.before.1 ++ (write s.inner ++ s.after.1)

lemma trim_render {s : Spaced α} (h : (write s.inner).Trimmed) :
    (s.render write).trim = write s.inner :=
  h.trim_append s.before.2 s.after.2

lemma sealed_render {s : Spaced α} (h : Sealed (write s.inner)) : Sealed (s.render write) :=
  (sealed_of_blank s.before.2).append (h.append (sealed_of_blank s.after.2))

lemma forall_mem_render {P : Char → Prop} {s : Spaced α} (hspace : ∀ c, isSpace c = true → P c)
    (h : ∀ c ∈ write s.inner, P c) : ∀ c ∈ s.render write, P c := by
  intro c hc
  rcases List.mem_append.1 hc with hc | hc
  · exact hspace c (List.all_eq_true.1 s.before.2 c hc)
  rcases List.mem_append.1 hc with hc | hc
  · exact h c hc
  · exact hspace c (List.all_eq_true.1 s.after.2 c hc)

lemma not_blank_render {s : Spaced α} (hne : write s.inner ≠ [])
    (h : (write s.inner).Trimmed) : (s.render write).blank = false := by
  obtain ⟨c, rest, hinner⟩ := List.exists_cons_of_ne_nil hne
  have hspace : isSpace c = false := h.head c (by rw [hinner]; rfl)
  refine List.all_eq_false.2 ⟨c, ?_, by simp [hspace]⟩
  simp [render, hinner]

end Spaced

/-! ### Kinds, names and values -/

structure Kind where
  text : Text
  ne_nil : text ≠ []
  letters : ∀ c ∈ text, isLetterOrDigit c = true

def Kind.lower (k : Kind) : Text := k.text.lowerLetters

structure Name where
  text : Text
  ne_nil : text ≠ []
  trimmed : text.Trimmed
  plain : ∀ c ∈ text, c ∉ '=' :: signs

structure FieldName extends Name where
  lower_eq : text.lower = text

/-- A value in braces, in quotes or bare. -/
inductive Value where
  | braced (v : Text) (balanced : nested '{' '}' 0 v = true)
  | quoted (v : Text) (balanced : nested '{' '}' 0 v = true)
      (inside : quotesInside 0 v = true)
  | bare (v : Text) (ne_nil : v ≠ []) (trimmed : v.Trimmed) (plain : ∀ c ∈ v, c ∉ signs)

def Value.raw : Value → Text
  | braced v _ => '{' :: (v ++ ['}'])
  | quoted v _ _ => '"' :: (v ++ ['"'])
  | bare v _ _ _ => v

namespace Kind

lemma trimmed (k : Kind) : k.text.Trimmed :=
  trimmed_of_forall fun c hc => isSpace_of_isLetterOrDigit (k.letters c hc)

lemma lower_eq (k : Kind) : k.text.lower = k.lower :=
  lower_eq_lowerLetters fun c hc => isBasic_of_isLetterOrDigit (k.letters c hc)

lemma isEntryKind_lower (k : Kind) : isEntryKind k.lower = decide (k.lower ∉ otherKinds) := by
  have hne : k.lower ≠ [] := by simpa [lower, lowerLetters] using k.ne_nil
  have hletters : k.lower.all (fun c => isLetter c || isDigit c) = true := by
    refine List.all_eq_true.2 (List.forall_mem_map.2 fun c hc => ?_)
    exact isLetterOrDigit_lowerLetter (k.letters c hc)
  simp [isEntryKind, hne, hletters]

lemma not_isOpening (k : Kind) : ∀ c ∈ k.text, isOpening c = false := by
  intro c hc
  have hcode := toNat_of_isLetterOrDigit (k.letters c hc)
  simp only [isOpening, Bool.or_eq_false_iff, decide_eq_false_iff_not]
  constructor
  · rintro rfl
    simp at hcode
  · rintro rfl
    simp at hcode

end Kind

lemma Name.sealed (n : Name) : Sealed n.text :=
  sealed_of_plain fun c hc hsign => n.plain c hc (List.mem_cons_of_mem _ hsign)

lemma Name.not_mem_equals (n : Name) : '=' ∉ n.text := fun h => n.plain '=' h (by simp)

namespace Value

lemma sealed_raw (v : Value) : Sealed v.raw := by
  cases v with
  | braced v balanced => exact sealed_braced balanced
  | quoted v balanced inside => exact sealed_quoted balanced inside
  | bare v ne_nil trimmed plain => exact sealed_of_plain plain

lemma trimmed_raw (v : Value) : v.raw.Trimmed := by
  cases v with
  | braced v balanced => exact ⟨by simp [raw, isSpace], by simp [raw, List.getLast?_cons, isSpace]⟩
  | quoted v balanced inside =>
    exact ⟨by simp [raw, isSpace], by simp [raw, List.getLast?_cons, isSpace]⟩
  | bare v ne_nil trimmed plain => exact trimmed

end Value

/-! ### Fields -/

structure WrittenField where
  name : Spaced FieldName
  value : Spaced Value

namespace WrittenField

def render (f : WrittenField) : Text :=
  f.name.render (·.text) ++ '=' :: f.value.render Value.raw

def field (f : WrittenField) : Text × Text := (f.name.inner.text, f.value.inner.raw)

lemma sealed_render (f : WrittenField) : Sealed f.render := by
  have hequals : Sealed ['='] := sealed_of_plain (by simp [signs])
  exact (Spaced.sealed_render f.name.inner.sealed).append
    (hequals.append (Spaced.sealed_render f.value.inner.sealed_raw))

lemma field?_render (f : WrittenField) : field? f.render = some f.field := by
  have hequals : '=' ∉ f.name.render (·.text) := by
    have hne : ∀ c ∈ f.name.render (·.text), c ≠ '=' := by
      refine Spaced.forall_mem_render ?_ fun c hc => ?_
      · rintro c hc rfl
        simp [isSpace] at hc
      · exact ne_of_mem_of_not_mem hc f.name.inner.not_mem_equals
    exact fun hmem => hne '=' hmem rfl
  have hname : (f.name.render (·.text)).trim.lower = f.name.inner.text := by
    rw [Spaced.trim_render f.name.inner.trimmed, f.name.inner.lower_eq]
  have hvalue : (f.value.render Value.raw).trim = f.value.inner.raw :=
    Spaced.trim_render f.value.inner.trimmed_raw
  simp [field?, render, cutChar?_append hequals, hname, hvalue, f.name.inner.ne_nil, field]

lemma not_blank_render (f : WrittenField) : f.render.blank = false :=
  List.all_eq_false.2 ⟨'=', by simp [render], by simp [isSpace]⟩

end WrittenField

/-! ### Entries -/

/-- An entry as it is written, perhaps with a comma behind its last part, and space behind
that. -/
structure WrittenEntry where
  kind : Spaced Kind
  kind_notMem : kind.inner.lower ∉ otherKinds
  id : Spaced Name
  fields : List WrittenField
  trailing : Option Space

namespace WrittenEntry

/-- The parts of an entry that say something. -/
def telling (e : WrittenEntry) : List Text :=
  e.id.render Name.text :: e.fields.map WrittenField.render

def body (e : WrittenEntry) : Text :=
  join [','] (e.telling ++ (e.trailing.map Subtype.val).toList)

def entry (e : WrittenEntry) : Entry where
  kind := e.kind.inner.lower
  id := e.id.inner.text
  fields := e.fields.map WrittenField.field

lemma sealed_parts (e : WrittenEntry) :
    ∀ part ∈ e.telling ++ (e.trailing.map Subtype.val).toList, Sealed part := by
  intro part hpart
  rcases List.mem_append.1 hpart with hpart | hpart
  · rcases List.mem_cons.1 hpart with rfl | hpart
    · exact Spaced.sealed_render e.id.inner.sealed
    · obtain ⟨f, -, rfl⟩ := List.mem_map.1 hpart
      exact f.sealed_render
  · obtain ⟨space, -, rfl⟩ := Option.map_eq_some_iff.1 (Option.mem_toList.1 hpart)
    exact sealed_of_blank space.2

lemma not_blank_of_mem_telling (e : WrittenEntry) :
    ∀ part ∈ e.telling, part.blank = false := by
  refine List.forall_mem_cons.2 ⟨?_, List.forall_mem_map.2 fun f _ => f.not_blank_render⟩
  exact Spaced.not_blank_render e.id.inner.ne_nil e.id.inner.trimmed

lemma parts_body (e : WrittenEntry) : parts e.body = e.telling := by
  have hne : e.telling ≠ [] := List.cons_ne_nil _ _
  have hsplit := splitParts_join (by simp [hne]) e.sealed_parts
  rw [parts, body, hsplit]
  cases e.trailing with
  | none =>
    obtain ⟨front, last, htelling⟩ : ∃ front last, e.telling = front ++ [last] :=
      ⟨_, _, (List.dropLast_append_getLast hne).symm⟩
    have hlast : last.blank = false :=
      e.not_blank_of_mem_telling last (by simp [htelling])
    simp [htelling, hlast]
  | some space => simp [space.2]

lemma sealed_body (e : WrittenEntry) :
    Nesting.none.run e.body = .none ∧ Nesting.none.Hides e.body '}' := join_sealed e.sealed_parts

lemma readBody?_body (e : WrittenEntry) : readBody? e.kind.inner.lower e.body = some e.entry := by
  have hid : (e.id.render Name.text).trim = e.id.inner.text :=
    Spaced.trim_render e.id.inner.trimmed
  have hfields : (e.fields.map WrittenField.render).filterMap field? =
      e.fields.map WrittenField.field := by
    rw [List.filterMap_map, ← List.filterMap_eq_map]
    exact List.filterMap_congr fun f _ => f.field?_render
  simp [readBody?, parts_body, telling, hid, hfields, e.id.inner.ne_nil,
    e.id.inner.not_mem_equals, entry]

end WrittenEntry

/-! ### Files -/

/-- A block of a kind, with its body. -/
def block (kind : Spaced Kind) (body : Text) : Text :=
  '@' :: (kind.render Kind.text ++ '{' :: (body ++ ['}']))

/-- A piece of a file. -/
inductive Piece where
  | text (s : Text) (noBlock : '@' ∉ s)
  | entry (e : WrittenEntry)
  /-- A comment, a string definition or a preamble. -/
  | other (kind : Spaced Kind) (kind_mem : kind.inner.lower ∈ otherKinds) (body : Text)
      (balanced : nested '{' '}' 0 body = true) (noQuote : '"' ∉ body)

namespace Piece

def render : Piece → Text
  | text s _ => s
  | entry e => block e.kind e.body
  | other kind _ body _ _ => block kind body

def written? : Piece → Option Entry
  | entry e => some e.entry
  | text _ _ | other _ _ _ _ _ => none

end Piece

def render (file : List Piece) : Text := file.flatMap Piece.render

lemma not_isOpening_of_isSpace {c : Char} (h : isSpace c = true) : isOpening c = false := by
  simp only [isOpening, Bool.or_eq_false_iff, decide_eq_false_iff_not]
  constructor
  · rintro rfl
    simp [isSpace] at h
  · rintro rfl
    simp [isSpace] at h

lemma block?_block {body : Text} (kind : Spaced Kind)
    (hrun : Nesting.none.run body = .none) (hbrace : Nesting.none.Hides body '}') (rest : Text) :
    block? (kind.render Kind.text ++ '{' :: (body ++ '}' :: rest)) =
      some (kind.inner.lower, body, '}' :: rest) := by
  have hopening : ∀ c ∈ kind.render Kind.text, (!isOpening c) = true := by
    refine Spaced.forall_mem_render (fun c hc => ?_) fun c hc => ?_
    · rw [not_isOpening_of_isSpace hc]
      rfl
    · rw [kind.inner.not_isOpening c hc]
      rfl
  have htop : (Nesting.none.run body).isTop = true := by rw [hrun]; rfl
  have hkind : (kind.render Kind.text).trim.lower = kind.inner.lower := by
    rw [Spaced.trim_render kind.inner.trimmed, kind.inner.lower_eq]
  rw [block?, List.dropWhile_append_of_pos hopening, List.takeWhile_append_of_pos hopening]
  have hopen : isOpening '{' = true := rfl
  simp [hopen, closing, splitBody?_of_hides hbrace htop, hkind]

lemma entries_cons {c : Char} (h : c ≠ '@') (rest : Text) : entries (c :: rest) = entries rest := by
  rw [entries]
  exact h

lemma entries_text {s : Text} (h : '@' ∉ s) (rest : Text) : entries (s ++ rest) = entries rest := by
  induction s with
  | nil => rfl
  | cons c s ih =>
    obtain ⟨hc, hs⟩ : '@' ≠ c ∧ '@' ∉ s := by simpa using h
    rw [List.cons_append, entries_cons hc.symm, ih hs]

lemma entries_at {s kind body after : Text} (h : block? s = some (kind, body, after)) :
    entries ('@' :: s) =
      (if isEntryKind kind then (readBody? kind body).toList else []) ++ entries after := by
  rw [entries]
  split
  · rename_i hnone
    rw [h] at hnone
    cases hnone
  · rename_i hsome
    rw [h] at hsome
    cases hsome
    split_ifs
    · cases readBody? kind body <;> rfl
    · rfl

lemma entries_block {body : Text} (kind : Spaced Kind) (hrun : Nesting.none.run body = .none)
    (hbrace : Nesting.none.Hides body '}') (rest : Text) :
    entries (block kind body ++ rest) =
      (if kind.inner.lower ∉ otherKinds then (readBody? kind.inner.lower body).toList else []) ++
        entries rest := by
  have hblock : block kind body ++ rest =
      '@' :: (kind.render Kind.text ++ '{' :: (body ++ '}' :: rest)) := by simp [block]
  rw [hblock, entries_at (block?_block kind hrun hbrace rest), entries_cons (by decide),
    kind.inner.isEntryKind_lower]
  simp only [decide_eq_true_eq]

lemma Piece.entries_append (piece : Piece) (rest : Text) :
    entries (piece.render ++ rest) = piece.written?.toList ++ entries rest := by
  cases piece with
  | text s noBlock => exact entries_text noBlock rest
  | entry e =>
    obtain ⟨hrun, hbrace⟩ := e.sealed_body
    rw [Piece.render, entries_block e.kind hrun hbrace, if_pos e.kind_notMem, e.readBody?_body]
    rfl
  | other kind kind_mem body balanced noQuote =>
    have hinside : quotesInside 0 body = true := quotesInside_of_not_mem noQuote 0
    have hrun : Nesting.none.run body = .none := run_balanced balanced fun _ => hinside
    have hbrace : Nesting.none.Hides body '}' :=
      hides_balanced balanced (fun _ => hinside) fun _ => rfl
    rw [Piece.render, entries_block kind hrun hbrace, if_neg (not_not.2 kind_mem)]
    rfl

/-- **Reading a bibliography undoes writing it**, whatever it looks like. -/
theorem entries_render (file : List Piece) :
    entries (render file) = file.filterMap Piece.written? := by
  induction file with
  | nil => rw [render, List.flatMap_nil, entries, List.filterMap_nil]
  | cons piece file ih =>
    have hfile : render (piece :: file) = piece.render ++ render file := List.flatMap_cons
    rw [hfile, piece.entries_append, ih, List.filterMap_cons]
    cases piece.written? <;> rfl

/-! ### A file of all kinds of pieces -/

def noSpace : Space := ⟨[], rfl⟩

def newLine : Space := ⟨"\n\t".toList, by decide⟩

def mixedKind : Kind :=
  ⟨"ArticlE2".toList, by decide, by simp [isLetterOrDigit, isLetter, isDigit]⟩

def stringKind : Kind :=
  ⟨"STRING".toList, by decide, by simp [isLetterOrDigit, isLetter]⟩

/-- An id with a space and with signs that do not count in it. -/
def oddId : Name :=
  ⟨"a :1(@".toList, by decide, ⟨by simp [isSpace], by simp [isSpace]⟩, by simp [signs]⟩

def titleName : FieldName where
  text := "title".toList
  ne_nil := by decide
  trimmed := trimmed_of_forall (by simp [isSpace])
  plain := by simp [signs]
  lower_eq := by decide +kernel

/-- An entry with values of all three kinds, and with signs of all kinds in them. -/
def crowdedEntry : WrittenEntry where
  kind := ⟨newLine, mixedKind, newLine⟩
  kind_notMem := by decide
  id := ⟨newLine, oddId, noSpace⟩
  fields :=
    [⟨⟨newLine, titleName, noSpace⟩,
        ⟨noSpace, .braced "a, \x7b\"\x7d = @b\x7b\x7d".toList (by decide), noSpace⟩⟩,
      ⟨⟨noSpace, titleName, newLine⟩,
        ⟨newLine, .quoted "v \x7b\"\x7d, w".toList (by decide) (by decide), newLine⟩⟩,
      ⟨⟨noSpace, titleName, noSpace⟩,
        ⟨noSpace, .bare "1 = @2".toList (by decide) ⟨by simp [isSpace], by simp [isSpace]⟩
          (by simp [signs]), newLine⟩⟩]
  trailing := some newLine

/-- An entry without fields. -/
def bareEntry : WrittenEntry where
  kind := ⟨noSpace, mixedKind, noSpace⟩
  kind_notMem := by decide
  id := ⟨noSpace, oddId, noSpace⟩
  fields := []
  trailing := none

def crowdedFile : List Piece :=
  [.text "refs, \x7d\"".toList (by decide),
    .other ⟨noSpace, stringKind, newLine⟩ (by decide) "a@b\x7bc\x7d".toList (by decide)
      (by decide),
    .entry crowdedEntry, .entry bareEntry]

theorem entries_render_crowdedFile :
    render crowdedFile =
        ("refs, \x7d\"@STRING\n\t\x7ba@b\x7bc\x7d\x7d@\n\tArticlE2\n\t\x7b\n\ta :1(@,\n\ttitle=" ++
          "\x7ba, \x7b\"\x7d = @b\x7b\x7d\x7d,title\n\t=\n\t\"v \x7b\"\x7d, w\"\n\t," ++
          "title=1 = @2\n\t,\n\t\x7d@ArticlE2\x7ba :1(@\x7d").toList ∧
      entries (render crowdedFile) =
        [⟨"article2".toList, "a :1(@".toList,
          [("title".toList, "\x7ba, \x7b\"\x7d = @b\x7b\x7d\x7d".toList),
            ("title".toList, "\"v \x7b\"\x7d, w\"".toList),
            ("title".toList, "1 = @2".toList)]⟩,
          ⟨"article2".toList, "a :1(@".toList, []⟩] := by
  refine ⟨by decide +kernel, ?_⟩
  rw [entries_render]
  decide +kernel

end LatexReview.Bibliography
