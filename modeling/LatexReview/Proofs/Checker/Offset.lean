import Mathlib
import LatexReview.Proofs.Checker.Answer

/-!
The offsets that `aspell` sends.

An offset is any number of 64 bits. It is added to the start of a line, and this addition alone can
overflow: lines are fewer than can be counted. Where nothing overflows, a miss has no position just
when its line or its offset is past the end of the plain text.
-/

namespace LatexReview.Aspell

variable {c : Config} {d : Document} {m : Miss} {line n bound : ℕ} {lines : List Text}
  {replies : List Reply} {e : ℕ × Miss} {path : Path} {source : Text}

/-! ### Any answer -/

/-- The lines of an answer up to the first one that is malformed, and the failure there. -/
def legible : List Text → List Reply × Option Failure
  | [] => ([], none)
  | line :: rest =>
    match Reply.ofLine line with
    | .error f => ([], some f)
    | .ok reply => (reply :: (legible rest).1, (legible rest).2)

/-- The misses among some replies, each with the number of its line, from the given one on. -/
def misses (line : ℕ) : List Reply → List (ℕ × Miss)
  | [] => []
  | .lineEnd :: rest => misses (line + 1) rest
  | .pass :: rest => misses line rest
  | .miss m :: rest => (line, m) :: misses line rest

/-- The misses that an answer tells before anything malformed, with their lines. -/
def toldBy (answer : Text) : List (ℕ × Miss) := misses 1 (legible answer.lines).1

/-- A miss stands in a line of the plain text, and its offset there comes out above a bound. -/
def PointsPast (d : Document) (bound : ℕ) (e : ℕ × Miss) : Prop :=
  ∃ start, d.translator.plainLines.lineStart? e.1 = some start ∧ bound < plainOffset start e.2

lemma word_ne_nil_of_mem (h : e ∈ misses n (legible lines).1) : e.2.word ≠ [] := by
  induction lines generalizing n with
  | nil => simp [legible, misses] at h
  | cons line rest ih =>
    unfold legible at h
    split at h
    · simp [misses] at h
    · rename_i reply hreply
      cases reply with
      | lineEnd => exact ih h
      | pass => exact ih h
      | miss m =>
        rcases List.mem_cons.1 h with rfl | h
        · exact (Reply.word_of_ofLine hreply).1
        · exact ih h

/-! ### Overflows -/

lemma overflows_iff : overflows d line m = true ↔ PointsPast d (2 ^ 64 - 1) (line, m) := by
  unfold overflows PointsPast
  split
  · rename_i start hstart
    simp only [hstart, UInt64.size, decide_eq_true_eq, Option.some.injEq, exists_eq_left']
    omega
  · rename_i hstart
    simp [hstart]

/-- What comes of an answer, if no line is malformed before the reading ends. -/
def outcomeOf (c : Config) (d : Document) (told : List (ℕ × Miss)) : Option Failure → Outcome
  | some f => .failed f
  | none => .found (report c d told)

lemma readFrom_eq (hcount : n + lines.length < UInt32.size) :
    readFrom c d n lines =
      if (misses n (legible lines).1).any fun e => overflows d e.1 e.2 then .crashed
      else outcomeOf c d (misses n (legible lines).1) (legible lines).2 := by
  induction lines generalizing n with
  | nil => rfl
  | cons line rest ih =>
    rw [List.length_cons] at hcount
    unfold readFrom legible
    cases hreply : Reply.ofLine line with
    | error f => rfl
    | ok reply =>
      cases reply with
      | lineEnd =>
        have hnext : n + 1 < UInt32.size := by omega
        simp only [hnext, if_true, misses]
        exact ih (by omega)
      | pass => exact ih (by omega)
      | miss m =>
        simp only [misses, List.any_cons, Bool.or_eq_true]
        cases hm : overflows d n m with
        | true => simp
        | false =>
          have hrest := ih (n := n) (by omega)
          simp only [Bool.false_eq_true, if_false, false_or]
          split_ifs at hrest ⊢ with hany
          · rw [hrest]
          · rw [hrest]
            cases (legible rest).2 <;> rfl

lemma read_eq (c : Config) (d : Document) {answer : Text}
    (hcount : answer.lines.length < 2 ^ 32 - 1) :
    read c d answer =
      if (toldBy answer).any fun e => overflows d e.1 e.2 then .crashed
      else outcomeOf c d (toldBy answer) (legible answer.lines).2 :=
  readFrom_eq (by rw [UInt32.size]; omega)

lemma any_overflows_iff {told : List (ℕ × Miss)} :
    (told.any fun e => overflows d e.1 e.2) = true ↔ ∃ e ∈ told, PointsPast d (2 ^ 64 - 1) e := by
  simp only [List.any_eq_true, overflows_iff]

lemma outcomeOf_ne_crashed (told : List (ℕ × Miss)) (f : Option Failure) :
    outcomeOf c d told f ≠ .crashed := by
  cases f <;> exact Outcome.noConfusion

/-! ### Positions -/

lemma position?_eq_none_iff (hd : d = .ofSource path source) {offset : ℕ} :
    d.translator.position? offset = none ↔ d.plain.length < offset := by
  subst hd
  obtain ⟨entries, hmap, hlength, -, hle⟩ := Detex.exists_entries source
  have hlen : entries.length = (Document.ofSource path source).plain.length + 1 := hlength
  have hentry : (Document.ofSource path source).translator.charMap[offset]? =
      (entries[offset]?).map some := by
    rw [← List.getElem?_map, ← hmap]
    rfl
  have hlines : (Document.ofSource path source).translator.sourceLines = .ofText source := rfl
  rw [Translator.position?, hentry, hlines]
  cases ho : entries[offset]? with
  | none =>
    have := List.getElem?_eq_none_iff.1 ho
    refine iff_of_true rfl ?_
    omega
  | some o =>
    obtain ⟨hlt, -⟩ := List.getElem?_eq_some_iff.1 ho
    have hsome := LineIndex.position?_isSome_iff.2 (hle o (List.mem_of_getElem? ho))
    refine iff_of_false ?_ (by omega)
    simpa using Option.isSome_iff_ne_none.1 hsome

lemma position_draft_eq_none_iff (hd : d = .ofSource path source) (hword : m.word ≠ []) :
    (draft c d line m).build.position = none ↔
      d.translator.plainLines.lineStart? line = none ∨
        PointsPast d d.plain.length (line, m) := by
  have hposition : (draft c d line m).build.position = position? d line m := if_neg hword
  rw [hposition, position?]
  cases hstart : d.translator.plainLines.lineStart? line with
  | none => simp
  | some start => simp [PointsPast, hstart, position?_eq_none_iff hd]

lemma forall₂_report (hd : d = .ofSource path source) (c : Config) (answer : Text) :
    List.Forall₂ (fun e p => p.text = e.2.word ∧ (p.position = none ↔
      d.translator.plainLines.lineStart? e.1 = none ∨ PointsPast d d.plain.length e))
      (toldBy answer) (report c d (toldBy answer)) := by
  rw [report, List.forall₂_map_right_iff, List.forall₂_same]
  exact fun e he => ⟨rfl, position_draft_eq_none_iff hd (word_ne_nil_of_mem he)⟩

/-- **An answer crashes the reading just when an offset overflows**, with fewer lines than 32 bits
count. Else it is malformed, or each word is reported, and has no position just when its line or
its offset is past the end of the plain text. -/
theorem read_offsets (hd : d = .ofSource path source) (c : Config) {answer : Text}
    (hcount : answer.lines.length < 2 ^ 32 - 1) :
    (read c d answer = .crashed ↔ ∃ e ∈ toldBy answer, PointsPast d (2 ^ 64 - 1) e) ∧
      ((∀ e ∈ toldBy answer, ¬ PointsPast d (2 ^ 64 - 1) e) →
        (∃ f, (legible answer.lines).2 = some f ∧ read c d answer = .failed f) ∨
        (legible answer.lines).2 = none ∧ ∃ ps, read c d answer = .found ps ∧
          List.Forall₂ (fun e p => p.text = e.2.word ∧ (p.position = none ↔
            d.translator.plainLines.lineStart? e.1 = none ∨ PointsPast d d.plain.length e))
            (toldBy answer) ps) := by
  have hread := read_eq c d hcount
  constructor
  · rw [← any_overflows_iff, hread]
    split_ifs with h
    · exact iff_of_true rfl h
    · exact iff_of_false (outcomeOf_ne_crashed _ _) h
  · intro hsafe
    have hnone : ¬ (toldBy answer).any (fun e => overflows d e.1 e.2) = true := by
      rw [any_overflows_iff]
      rintro ⟨e, he, hpast⟩
      exact hsafe e he hpast
    rw [if_neg hnone] at hread
    cases hfailure : (legible answer.lines).2 with
    | some f => exact .inl ⟨f, rfl, by rw [hread, hfailure]; rfl⟩
    | none =>
      have hfound : read c d answer = .found (report c d (toldBy answer)) := by
        rw [hread, hfailure]
        rfl
      exact .inr ⟨rfl, _, hfound, forall₂_report hd c answer⟩

/-! ### Two lines -/

def twoLines : Document := .ofSource "a.tex".toList "a\nb".toList

/-- Words in place, behind the end of the text, and in a line that it does not have. -/
def straying : Text := "@ x\n# a 1\n\n# b 9\n& b 1 1: c\n\n# z 1\n".toList

theorem read_offsets_straying :
    straying.lines.length < 2 ^ 32 - 1 ∧
      (∀ e ∈ toldBy straying, ¬ PointsPast twoLines (2 ^ 64 - 1) e) ∧
      ∃ ps, read {} twoLines straying = .found ps ∧
        List.Forall₂ (fun e p => p.text = e.2.word ∧ (p.position = none ↔
          twoLines.translator.plainLines.lineStart? e.1 = none ∨
            PointsPast twoLines twoLines.plain.length e)) (toldBy straying) ps ∧
        ps.map (·.position) = [some ⟨1, 1⟩, none, some ⟨2, 1⟩, none] := by
  have hdocument : twoLines = .ofSource "a.tex".toList "a\nb".toList := rfl
  have hlines : straying.lines =
      ["@ x".toList, "# a 1".toList, [], "# b 9".toList, "& b 1 1: c".toList, [],
        "# z 1".toList] := by decide
  have hcount : straying.lines.length < 2 ^ 32 - 1 := by
    rw [hlines]
    decide
  have htold : toldBy straying = [(1, ⟨['a'], 1, []⟩), (2, ⟨['b'], 9, []⟩),
      (2, ⟨['b'], 1, [['c']]⟩), (3, ⟨['z'], 1, []⟩)] := by cbv
  have hsafe : ∀ e ∈ toldBy straying, ¬ PointsPast twoLines (2 ^ 64 - 1) e := by
    have hoverflows : ∀ e ∈ toldBy straying, overflows twoLines e.1 e.2 = false := by
      rw [htold]
      decide +kernel
    intro e he hpast
    exact absurd (overflows_iff.2 hpast) (Bool.eq_false_iff.1 (hoverflows e he))
  have hlegible : (legible straying.lines).2 = none := by
    rw [hlines]
    decide +kernel
  have hpositions : (read {} twoLines straying).problems.map (·.position) =
      [some ⟨1, 1⟩, none, some ⟨2, 1⟩, none] := by cbv
  rcases (read_offsets hdocument {} hcount).2 hsafe with ⟨f, hf, -⟩ | ⟨-, ps, hread, hreports⟩
  · cases hlegible.symm.trans hf
  · rw [hread] at hpositions
    exact ⟨hcount, hsafe, ps, hread, hreports, hpositions⟩

/-- The largest offset there is, in the second line. -/
def farOffset : Text := "\n# b 18446744073709551615\n".toList

/-- **An offset may overflow**: the miss of a legible answer is far past the end of the plain
text, and the reading crashes. -/
theorem read_farOffset :
    farOffset.lines.length = 2 ∧
      legible farOffset.lines = ([.lineEnd, .miss ⟨['b'], 2 ^ 64 - 1, []⟩], none) ∧
      twoLines.translator.plainLines.lineStart? 2 = some 2 ∧ twoLines.plain.length = 3 ∧
      read {} twoLines farOffset = .crashed := by
  have hlines : farOffset.lines = [[], "# b 18446744073709551615".toList] := by decide
  refine ⟨by rw [hlines]; rfl, ?_, by cbv, by cbv, by cbv⟩
  rw [hlines]
  decide +kernel

end LatexReview.Aspell
