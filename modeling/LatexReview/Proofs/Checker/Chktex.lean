import Mathlib
import LatexReview.Checker.Chktex
import LatexReview.Proofs.Basic
import LatexReview.Proofs.Text.Fields
import LatexReview.Proofs.Text.Lines

/-!
The records of `chktex`, printed and read back.

A record is read back from its line just when no delimiter begins in its fields, the last one
apart. So the problems read from an output are the findings that were printed, unless one of
them has a field that ends in a colon: such a finding is printed like another one.
-/

namespace LatexReview.Chktex

variable {path : Path} {r : Record} {field : Text}

/-! ### Lines of fields -/

/-- The fields in the order in which they are printed. -/
def Record.fields (r : Record) : List Text :=
  [r.file, r.line, r.column, r.length, r.number, r.text, r.message, r.kind, r.before, r.after]

/-- The fields with a delimiter behind them. -/
def Record.delimited (r : Record) : List Text := r.fields.dropLast

def Record.render (r : Record) : Text := Text.join delimiter r.fields

/-- What `chktex` is asked for is the line of a record. -/
example : format = Text.ofLines [Record.render ⟨"%f".toList, "%l".toList, "%c".toList,
    "%d".toList, "%n".toList, "%s".toList, "%m".toList, "%k".toList, "%r".toList,
    "%t".toList⟩] := by decide

/-- A delimiter begins in a text that holds one, or that ends in a colon, which makes one up
with the first colons of the next. -/
lemma clearOf_delimiter_iff :
    field.ClearOf delimiter ↔ ¬ delimiter <:+: field ∧ field.getLast? ≠ some ':' := by
  constructor
  · intro h
    constructor
    · rintro ⟨before, after, rfl⟩
      have hle := h before (after ++ delimiter) (by simp)
      simp [delimiter] at hle
    · intro hlast
      obtain ⟨before, rfl⟩ : ∃ before, field = before ++ [':'] :=
        ⟨_, (List.dropLast_append_getLast? _ hlast).symm⟩
      have hle := h before [':'] (by simp [delimiter])
      simp at hle
  · rintro ⟨hinside, hlast⟩ before after heq
    by_contra hlt
    obtain ⟨tail, rfl⟩ : before <+: field :=
      List.prefix_of_prefix_length_le ⟨_, heq.symm⟩ (List.prefix_append _ _) (by omega)
    have htail : tail ++ delimiter = delimiter ++ after := by simpa using heq
    -- The rest of the field reaches over the delimiter in it, or ends in a part of it.
    match tail with
    | [] => simp at hlt
    | [c] => simp_all [delimiter]
    | [c, d] => simp_all [delimiter]
    | c :: d :: e :: tail =>
      refine hinside ⟨before, tail, ?_⟩
      simp_all [delimiter]

lemma Record.ofLine?_eq_some_iff {line : Text} :
    Record.ofLine? line = some r ↔ Text.parts delimiter fieldCount line = r.fields := by
  unfold Record.ofLine?
  split
  · rename_i h
    rw [h]
    cases r
    simp [fields]
  · rename_i h
    refine iff_of_false (by simp) fun hparts => ?_
    exact h _ _ _ _ _ _ _ _ _ _ hparts

/-- **A record is read back from its line** just when no delimiter begins in the fields that
have one behind them. -/
theorem Record.ofLine?_render_iff :
    Record.ofLine? r.render = some r ↔ ∀ field ∈ r.delimited, field.ClearOf delimiter := by
  rw [ofLine?_eq_some_iff, ← Text.parts_join_iff (by simp [delimiter]) r.delimited r.after]
  rfl

/-! ### Findings -/

/-- What `chktex` has found, before it is printed. -/
structure Finding where
  file : Text
  line : UInt32
  column : UInt32
  length : UInt32
  number : Text
  text : Text
  message : Text
  kind : Text
  before : Text
  after : Text
deriving DecidableEq

namespace Finding

variable {f : Finding} {findings : List Finding}

def record (f : Finding) : Record where
  file := f.file
  line := Text.numeral f.line.toNat
  column := Text.numeral f.column.toNat
  length := Text.numeral f.length.toNat
  number := f.number
  text := f.text
  message := f.message
  kind := f.kind
  before := f.before
  after := f.after

def print (findings : List Finding) : Text := Text.ofLines (findings.map (·.record.render))

/-- A finding that takes one line, with fields that do not hold the delimiter. -/
structure Printable (f : Finding) : Prop where
  number : f.number.Trimmed
  line : ∀ field ∈ f.record.fields, '\n' ∉ field
  line_end : f.after.getLast? ≠ some '\r'
  inside : ∀ field ∈ f.record.delimited, ¬ delimiter <:+: field

/-- A problem says what a finding does. -/
structure ReadAs (f : Finding) (p : Problem) : Prop where
  text : p.text = f.text
  problemType : p.problemType = f.number
  length : p.length = f.length.toNat
  context : p.context = (f.before, f.after)
  position : f.text ≠ [] → p.position = some ⟨f.line, f.column⟩
  description : f.text ≠ [] → p.description = some f.message

lemma readNumber_numeral (line : Text) (n : UInt32) :
    readNumber line (Text.numeral n.toNat) = .ok n := by
  have htrim : (Text.numeral n.toNat).trim = Text.numeral n.toNat :=
    (Text.trimmed_of_forall fun _ => Text.not_isSpace_of_mem_numeral).trim_eq
  simp [readNumber, htrim, Text.readNumeral?_numeral n.toNat_lt_size]

lemma exists_problem (h : f.number.Trimmed) (path : Path) (line : Text) :
    ∃ p, f.record.problem path line = .ok p ∧ f.ReadAs p := by
  simp only [Record.problem, record, readNumber_numeral, h.trim_eq]
  refine ⟨_, rfl, ?_⟩
  constructor
  case position => exact fun hne => if_neg hne
  case description => exact fun hne => congrArg some (if_neg hne)
  all_goals rfl

/-! ### The lines of an output -/

lemma mem_render {c : Char} (h : c ∈ r.render) (hc : c ≠ ':') : ∃ field ∈ r.fields, c ∈ field := by
  simp [Record.render, Record.fields, Text.join, List.intercalate, delimiter, hc] at h ⊢
  exact h

lemma getLast?_render (h : r.after.getLast? ≠ some '\r') : r.render.getLast? ≠ some '\r' := by
  obtain ⟨before, hrender⟩ : ∃ before, r.render = before ++ ':' :: r.after :=
    ⟨Text.join delimiter r.delimited ++ "::".toList, by
      simp [Record.render, Record.delimited, Record.fields, Text.join, List.intercalate,
        delimiter]⟩
  rw [hrender]
  cases hafter : r.after with
  | nil => simp
  | cons c after =>
    rw [hafter] at h
    simpa [List.getLast?_cons] using h

lemma not_blank_render (r : Record) : r.render.blank = false := by
  have hcolon : ':' ∈ r.render := by
    simp [Record.render, Record.fields, Text.join, List.intercalate, delimiter]
  refine Bool.eq_false_iff.2 fun hblank => ?_
  have hspace := List.all_eq_true.1 hblank ':' hcolon
  simp [Text.isSpace] at hspace

lemma lines_print (h : ∀ f ∈ findings, f.Printable) :
    (print findings).lines.filter (fun line => !line.blank) = findings.map (·.record.render) := by
  have hlines : (print findings).lines = findings.map (·.record.render) := by
    refine Text.lines_ofLines_eq (List.forall_mem_map.2 fun f hf hbreak => ?_)
      (List.forall_mem_map.2 fun f hf => getLast?_render (h f hf).line_end)
    obtain ⟨field, hfield, hmem⟩ := mem_render hbreak (by decide)
    exact (h f hf).line field hfield hmem
  rw [hlines, List.filter_eq_self]
  exact List.forall_mem_map.2 fun f _ => by simp [not_blank_render]

/-- **Reading an output undoes printing it**, if no field with a delimiter behind it ends in a
colon. -/
theorem problems_print (path : Path) (h : ∀ f ∈ findings, f.Printable)
    (hcolon : ∀ f ∈ findings, ∀ field ∈ f.record.delimited, field.getLast? ≠ some ':') :
    ∃ ps, problems path (print findings) = .ok ps ∧ List.Forall₂ ReadAs findings ps := by
  rw [problems, lines_print h]
  refine exists_mapM_map fun f hf => ?_
  have hread : Record.ofLine? f.record.render = some f.record :=
    Record.ofLine?_render_iff.2 fun field hfield =>
      clearOf_delimiter_iff.2 ⟨(h f hf).inside field hfield, hcolon f hf field hfield⟩
  obtain ⟨p, hp, hsame⟩ := exists_problem (h f hf).number path f.record.render
  exact ⟨p, by rw [lineProblem, hread]; exact hp, hsame⟩

/-- Findings with colons on the right side of delimiters, with delimiters at the end, and
without text. -/
def colonFindings : List Finding :=
  [⟨"stdin".toList, 4, 7, 2, "18".toList, ":a:b".toList, "::".toList ++ "use c".toList,
      "Warning".toList, ":".toList ++ "d".toList, "e:::f:".toList⟩,
    ⟨"stdin".toList, 9, 1, 1, "17".toList, [], "odd".toList, "Error".toList, [], []⟩]

theorem problems_print_colonFindings :
    (∀ f ∈ colonFindings, f.Printable) ∧
      (∀ f ∈ colonFindings, ∀ field ∈ f.record.delimited, field.getLast? ≠ some ':') ∧
      ∃ ps, problems "doc.tex".toList (print colonFindings) = .ok ps ∧
        List.Forall₂ ReadAs colonFindings ps := by
  have h : ∀ f ∈ colonFindings, f.Printable := by
    refine List.forall_mem_cons.2 ⟨?_, List.forall_mem_singleton.2 ?_⟩
    · exact ⟨Text.trimmed_of_forall (by simp [Text.isSpace]), by decide, by decide, by decide⟩
    · exact ⟨Text.trimmed_of_forall (by simp [Text.isSpace]), by decide, by decide, by decide⟩
  have hcolon : ∀ f ∈ colonFindings, ∀ field ∈ f.record.delimited,
      field.getLast? ≠ some ':' := by decide
  exact ⟨h, hcolon, problems_print _ h hcolon⟩

/-- The text of this finding ends in a colon. -/
def colonFinding : Finding :=
  ⟨"stdin".toList, 1, 3, 2, "1".toList, "x:".toList, "odd".toList, "Warning".toList, "a".toList,
    "b".toList⟩

/-- A finding whose text ends in a colon is printed like another one, and not read back. -/
theorem problems_print_trailingColon :
    colonFinding.Printable ∧ (∀ field ∈ colonFinding.record.fields, '\r' ∉ field) ∧
      print [colonFinding] =
        print [{ colonFinding with text := "x".toList, message := ":odd".toList }] ∧
      ¬ ∃ ps, problems "doc.tex".toList (print [colonFinding]) = .ok ps ∧
        List.Forall₂ ReadAs [colonFinding] ps := by
  refine ⟨⟨Text.trimmed_of_forall (by simp [colonFinding, Text.isSpace]), by decide, by decide,
    by decide⟩, by decide, by decide, ?_⟩
  rintro ⟨ps, hps, hall⟩
  obtain ⟨p, rest, hsame, -, rfl⟩ := List.forall₂_cons_left_iff.1 hall
  have htexts : (problems "doc.tex".toList (print [colonFinding])).map (·.map (·.text)) =
      .ok ["x".toList] := by cbv
  rw [hps] at htexts
  have htext : p.text = "x".toList := List.head_eq_of_cons_eq (Except.ok.inj htexts)
  rw [hsame.text] at htext
  exact absurd htext (by decide)

end Finding

end LatexReview.Chktex
