import Mathlib
import LatexReview.Proofs.Checker.Aspell
import LatexReview.Proofs.Detex.CharMap
import LatexReview.Proofs.LineIndex

/-!
The answers of `aspell`, written and read back.

The input is asked line by line, and answered that way: some remarks on a line, and then an
empty one. Reading an answer gives a problem for each word that the remarks miss, in the place
of the source that the column of the word comes from.
-/

namespace LatexReview.Aspell

/-- The lines of the input, up to their line breaks. -/
def asked (plain : Text) : List Text := ((input plain).splitOn '\n').dropLast

lemma asked_eq (plain : Text) : asked plain = plain.lines.map ('^' :: ·) := by
  have hinput : input plain = Text.ofLines (plain.lines.map ('^' :: ·)) := by
    rw [Text.ofLines, List.flatMap_map]
    rfl
  have hbreak : ∀ line ∈ plain.lines.map ('^' :: ·), '\n' ∉ line :=
    List.forall_mem_map.2 fun line hline => by simp [Text.not_mem_of_mem_lines hline]
  rw [asked, hinput, Text.splitOn_ofLines hbreak, List.dropLast_concat]

lemma length_le_of_mem_asked {plain line : Text} (h : line ∈ asked plain) :
    line.length ≤ plain.length + 1 := by
  rw [asked_eq] at h
  obtain ⟨row, hrow, rfl⟩ := List.mem_map.1 h
  simpa using Text.length_le_of_mem_lines hrow

/-! ### Remarks -/

/-- A remark on a line of the input. -/
inductive Remark where
  /-- A word with suggestions, and a count of them. -/
  | suggesting (miss : Miss) (count : ℕ)
  /-- A word without suggestions, and its offset. -/
  | alone (word : Text) (offset : ℕ)
  /-- Nothing amiss. -/
  | other (text : Text)

/-- A word stands in a line of the input, behind its sign, and is told in one line with its
suggestions. -/
structure Miss.Fits (line : Text) (m : Miss) : Prop where
  word_ne : m.word ≠ []
  word : ∀ ch ∈ m.word, Text.isSpace ch = false ∧ ch ≠ ':'
  behind_sign : 0 < m.offset
  inside : m.offset < line.length
  suggestions : ∀ s ∈ m.suggestions, s ≠ [] ∧ s.Trimmed ∧ ',' ∉ s ∧ '\n' ∉ s

namespace Remark

def miss? : Remark → Option Miss
  | suggesting m _ => some m
  | alone word offset => some ⟨word, offset, []⟩
  | other _ => none

def render : Remark → Text
  | suggesting m count =>
    ['&'] ++ ' ' :: m.word ++ ' ' :: Text.numeral count ++ ' ' :: Text.numeral m.offset ++
      ':' :: ' ' :: Text.join ", ".toList m.suggestions
  | alone word offset => ['#'] ++ ' ' :: word ++ ' ' :: Text.numeral offset
  | other text => text

def Fits (line : Text) : Remark → Prop
  | suggesting m _ => m.Fits line
  | alone word offset => Miss.Fits line ⟨word, offset, []⟩
  | other text => (∃ mark ∈ "*+-".toList, text.head? = some mark) ∧ '\n' ∉ text

def reply (r : Remark) : Reply := r.miss?.elim .pass .miss

/-- A remark is read back from its line. -/
def Legible (r : Remark) : Prop := Reply.ofLine r.render.dropReturn = .ok r.reply

end Remark

/-- The remarks of a row answer a line of the input. -/
def Answers (line : Text) (row : List Remark) : Prop := ∀ r ∈ row, r.Fits line

/-- An answer, with a line in front of it if there is one. -/
def answer (header : Option Text) (rows : List (List Remark)) : Text :=
  Text.ofLines (header.toList ++ rows.flatMap fun row => row.map Remark.render ++ [[]])

/-- The words that are missed in the given lines, each with the number of its line, from the
given one on. -/
def told (line : ℕ) : List (List Remark) → List (ℕ × Miss)
  | [] => []
  | row :: rows => (row.filterMap Remark.miss?).map (line, ·) ++ told (line + 1) rows

/-! ### One line -/

variable {line : Text} {m : Miss} {r : Remark}

lemma Reply.ofLine_eq_pass {mark : Char} (hmark : mark ∈ "@*+-".toList)
    (h : line.head? = some mark) : Reply.ofLine line = .ok .pass := by
  obtain ⟨rest, rfl⟩ : ∃ rest, line = mark :: rest := List.head?_eq_some_iff.1 h
  simp only [String.reduceToList, List.mem_cons, List.not_mem_nil, or_false] at hmark
  rcases hmark with rfl | rfl | rfl | rfl <;> rfl

lemma Reply.ofLine_dropReturn_eq_pass {mark : Char} (hmark : mark ∈ "@*+-".toList)
    (h : line.head? = some mark) : Reply.ofLine line.dropReturn = .ok .pass := by
  have hne : mark ≠ '\r' := by
    rintro rfl
    simp at hmark
  exact ofLine_eq_pass hmark (Text.head?_dropReturn h hne)

section

variable (h : m.Fits line) (hoffset : m.offset < UInt64.size)

include h

lemma Miss.Fits.words_word : Text.words m.word = [m.word] :=
  Text.words_eq_singleton h.word_ne fun ch hch => (h.word ch hch).1

include hoffset

lemma missAlone?_render :
    missAlone? (Remark.alone m.word m.offset).render = some ⟨m.word, m.offset, []⟩ := by
  have hsign : Text.words ['#'] = [['#']] := by decide
  have hwords : Text.words (Remark.alone m.word m.offset).render =
      [['#'], m.word, Text.numeral m.offset] := by
    rw [Remark.render, Text.words_append (by decide), Text.words_append (by decide), hsign,
      h.words_word, Text.words_numeral]
    rfl
  rw [missAlone?, hwords]
  simp [Text.readNumeral?_numeral hoffset]

lemma missWithSuggestions?_render (count : ℕ) :
    missWithSuggestions? (Remark.suggesting m count).render = some m := by
  set head := ['&'] ++ ' ' :: m.word ++ ' ' :: Text.numeral count ++ ' ' :: Text.numeral m.offset
    with hhead
  have hcolon : ':' ∉ head := by
    have hword : ':' ∉ m.word := fun hm => (h.word ':' hm).2 rfl
    have hnumeral (n : ℕ) : ':' ∉ Text.numeral n := Text.not_mem_numeral (by decide) n
    simp [hhead, hword, hnumeral]
  have hsign : Text.words ['&'] = [['&']] := by decide
  have hwords : Text.words head =
      [['&'], m.word, Text.numeral count, Text.numeral m.offset] := by
    rw [hhead, Text.words_append (by decide), Text.words_append (by decide),
      Text.words_append (by decide), hsign, h.words_word, Text.words_numeral, Text.words_numeral]
    rfl
  have hlist := Text.filter_trim_splitOn_join fun s hs =>
    have ⟨hne, htrimmed, hcomma, _⟩ := h.suggestions s hs
    ⟨hne, htrimmed, hcomma⟩
  rw [missWithSuggestions?, Remark.render, Text.cutChar?_append hcolon]
  simp only [Option.bind_eq_bind, Option.bind_some, hwords, Text.readNumeral?_numeral hoffset,
    hlist]

end

lemma dropReturn_render_suggesting (h : m.Fits line) (count : ℕ) :
    (Remark.suggesting m count).render.dropReturn = (Remark.suggesting m count).render := by
  refine Text.dropReturn_of_getLast? ?_
  rw [Remark.render, List.getLast?_append_cons]
  rcases m.suggestions.eq_nil_or_concat with hnil | ⟨others, last, hlast⟩
  · rw [hnil]
    decide
  · obtain ⟨hne, htrimmed, -, -⟩ := h.suggestions last (by simp [hlast])
    obtain ⟨before, hjoin⟩ := Text.exists_join_concat ", ".toList others last
    rw [hlast, List.concat_eq_append, hjoin, ← List.cons_append, ← List.cons_append,
      List.getLast?_append_of_ne_nil _ hne]
    intro hreturn
    exact absurd (htrimmed.last _ hreturn) (by decide)

lemma dropReturn_render_alone (word : Text) (offset : ℕ) :
    (Remark.alone word offset).render.dropReturn = (Remark.alone word offset).render := by
  refine Text.dropReturn_of_getLast? ?_
  rw [Remark.render, List.getLast?_append_cons, ← List.singleton_append,
    List.getLast?_append_of_ne_nil _ (Text.numeral_ne_nil offset)]
  intro hreturn
  exact Text.not_mem_numeral (by decide) offset (List.mem_of_getLast? hreturn)

lemma Remark.Fits.legible (h : r.Fits line) (hlength : line.length ≤ UInt64.size) :
    r.Legible := by
  cases r with
  | suggesting m count =>
    have hoffset : m.offset < UInt64.size := lt_of_lt_of_le h.inside hlength
    rw [Remark.Legible, dropReturn_render_suggesting h]
    exact Reply.ofLine_eq_miss_iff.2 (.inl ⟨rfl, missWithSuggestions?_render h hoffset count⟩)
  | alone word offset =>
    have hoffset : offset < UInt64.size := lt_of_lt_of_le h.inside hlength
    rw [Remark.Legible, dropReturn_render_alone]
    exact Reply.ofLine_eq_miss_iff.2 (.inr ⟨rfl, missAlone?_render h hoffset⟩)
  | other text =>
    obtain ⟨⟨mark, hmark, hhead⟩, -⟩ := h
    exact Reply.ofLine_dropReturn_eq_pass (List.mem_cons_of_mem '@' hmark) hhead

lemma Remark.Fits.newline_not_mem_render (h : r.Fits line) : '\n' ∉ r.render := by
  have hnumeral (n : ℕ) : '\n' ∉ Text.numeral n := Text.not_mem_numeral (by decide) n
  have hword {m : Miss} (hm : m.Fits line) : '\n' ∉ m.word := fun hmem =>
    absurd (hm.word '\n' hmem).1 (by decide)
  cases r with
  | suggesting m count =>
    have hjoin : '\n' ∉ Text.join ", ".toList m.suggestions := by
      intro hmem
      rcases Text.mem_of_mem_join hmem with hmem | ⟨s, hs, hmem⟩
      · simp at hmem
      · exact (h.suggestions s hs).2.2.2 hmem
    simpa [Remark.render, hnumeral, hword h] using hjoin
  | alone word offset =>
    have hmiss := hword h
    simp [Remark.render, hnumeral, hmiss]
  | other text => exact h.2

/-! ### Line by line -/

variable {c : Config} {d : Document} {ps : List Problem} {n : ℕ} {row : List Remark}
  {rows : List (List Remark)} {rest : List Text}

/-- What is read of the words that are missed. -/
def report (c : Config) (d : Document) (misses : List (ℕ × Miss)) : List Problem :=
  misses.map fun (line, m) => (draft c d line m).build

/-- The lines of the answer to a line of the input. -/
def rowLines (row : List Remark) : List Text := row.map (·.render.dropReturn) ++ [[]]

lemma readFrom_row (hrow : ∀ r ∈ row, r.Legible) (hcount : n + 1 < UInt32.size)
    (hsize : ∀ m ∈ row.filterMap Remark.miss?, overflows d n m = false)
    (hrest : readFrom c d (n + 1) rest = .found ps) :
    readFrom c d n (rowLines row ++ rest) =
      .found (report c d ((row.filterMap Remark.miss?).map (n, ·)) ++ ps) := by
  induction row with
  | nil =>
    have hempty : readFrom c d n ([] :: rest) = .found ps := by
      rw [readFrom, show Reply.ofLine [] = .ok .lineEnd from rfl]
      exact (if_pos hcount).trans hrest
    exact hempty
  | cons r row ih =>
    obtain ⟨hr, hothers⟩ := List.forall_mem_cons.1 hrow
    have hcons : rowLines (r :: row) ++ rest = r.render.dropReturn :: (rowLines row ++ rest) := rfl
    rw [hcons, readFrom, show Reply.ofLine _ = .ok r.reply from hr, Remark.reply]
    cases hmiss : r.miss? with
    | none =>
      rw [List.filterMap_cons_none hmiss] at hsize ⊢
      exact ih hothers hsize
    | some m =>
      rw [List.filterMap_cons_some hmiss] at hsize ⊢
      obtain ⟨hm, hmisses⟩ := List.forall_mem_cons.1 hsize
      dsimp only [Option.elim_some]
      rw [hm, ih hothers hmisses]
      rfl

lemma readFrom_rows (hrows : ∀ row ∈ rows, ∀ r ∈ row, r.Legible)
    (hcount : n + rows.length < UInt32.size)
    (hsize : ∀ e ∈ told n rows, overflows d e.1 e.2 = false) :
    readFrom c d n (rows.flatMap rowLines) = .found (report c d (told n rows)) := by
  induction rows generalizing n with
  | nil => rfl
  | cons row rows ih =>
    obtain ⟨hrow, hothers⟩ := List.forall_mem_cons.1 hrows
    rw [List.length_cons] at hcount
    have hmisses : ∀ m ∈ row.filterMap Remark.miss?, overflows d n m = false := fun m hm =>
      hsize (n, m) (List.mem_append_left _ (List.mem_map_of_mem hm))
    have hrest := ih hothers (n := n + 1) (by omega) fun e he =>
      hsize e (List.mem_append_right _ he)
    rw [List.flatMap_cons, readFrom_row hrow (by omega) hmisses hrest, told, report, report,
      report, List.map_append]

lemma lines_answer {header : Option Text} (hheader : ∀ line ∈ header, '\n' ∉ line)
    (hrows : ∀ row ∈ rows, ∀ r ∈ row, '\n' ∉ r.render) :
    (answer header rows).lines = header.toList.map Text.dropReturn ++ rows.flatMap rowLines := by
  have hbreak : ∀ line ∈ header.toList ++ rows.flatMap fun row => row.map Remark.render ++ [[]],
      '\n' ∉ line := by
    intro line hline
    rcases List.mem_append.1 hline with hline | hline
    · exact hheader line (Option.mem_toList.1 hline)
    · obtain ⟨row, hrow, hline⟩ := List.mem_flatMap.1 hline
      rcases List.mem_append.1 hline with hline | hline
      · obtain ⟨r, hr, rfl⟩ := List.mem_map.1 hline
        exact hrows row hrow r hr
      · simp [List.mem_singleton.1 hline]
  have hempty : Text.dropReturn [] = [] := by decide
  have hrow : (fun row : List Remark => (row.map Remark.render ++ [[]]).map Text.dropReturn) =
      rowLines := by
    funext row
    simp [rowLines, hempty, Function.comp_def]
  rw [answer, Text.lines_ofLines hbreak, List.map_append, List.map_flatMap, hrow]

/-! ### Places -/

/-- A problem says what a miss in a line does, and where in the source the character stands
that its column holds. -/
structure Reports (d : Document) (line : ℕ) (m : Miss) (p : Problem) : Prop where
  text : p.text = m.word
  suggestions : p.suggestions = m.suggestions.take 10
  position : ∃ offset place, d.plain.StandsAt line m.offset offset ∧
    d.translator.position? offset = some place ∧ p.position = some place ∧
    ∀ l column : UInt32, l.toNat = line → column.toNat = m.offset →
      d.translator.locate l column = .ok place

lemma Remark.Fits.miss (h : r.Fits line) (hm : r.miss? = some m) : m.Fits line := by
  cases r with
  | suggesting miss count => exact Option.some.inj hm ▸ h
  | alone word offset => exact Option.some.inj hm ▸ h
  | other text => simp [Remark.miss?] at hm

lemma exists_fits {lines : List Text} {e : ℕ × Miss}
    (h : List.Forall₂ Answers lines rows) (he : e ∈ told n rows) :
    ∃ i line, lines[i]? = some line ∧ e.1 = n + i ∧ e.2.Fits line := by
  induction h generalizing n with
  | nil => simp [told] at he
  | @cons line row lines rows hrow _ ih =>
    rcases List.mem_append.1 he with he | he
    · obtain ⟨m, hm, rfl⟩ := List.mem_map.1 he
      obtain ⟨r, hr, hmiss⟩ := List.mem_filterMap.1 hm
      exact ⟨0, line, rfl, rfl, (hrow r hr).miss hmiss⟩
    · obtain ⟨i, other, hi, hn, hfits⟩ := ih he
      exact ⟨i + 1, other, hi, by omega, hfits⟩

lemma exists_standsAt {plain : Text} {i : ℕ} (hline : (asked plain)[i]? = some line)
    (h : m.Fits line) : ∃ offset, plain.StandsAt (i + 1) m.offset offset := by
  rw [asked_eq, List.getElem?_map] at hline
  obtain ⟨row, hrow, rfl⟩ := Option.map_eq_some_iff.1 hline
  exact Text.exists_standsAt hrow h.behind_sign (Nat.le_of_lt_succ h.inside)

lemma exists_place {path : Path} {source : Text} {offset : ℕ}
    (hd : d = .ofSource path source) (h : offset < d.plain.length) :
    ∃ place, d.translator.position? offset = some place := by
  subst hd
  obtain ⟨o, hlt, ho⟩ := Detex.exists_offset source h
  obtain ⟨place, hplace⟩ : ∃ place, (LineIndex.ofText source).position? o = some place :=
    LineIndex.exists_position rfl hlt.le
  have hentry : (Document.ofSource path source).translator.charMap[offset]? = some (some o) := ho
  exact ⟨place, by rw [Translator.position?, hentry]; exact hplace⟩

section

variable {offset : ℕ} (hlines : d.translator.plainLines = .ofText d.plain)
  (h : d.plain.StandsAt n m.offset offset)

include hlines h

lemma overflows_of_standsAt (hlength : d.plain.length ≤ UInt64.size) :
    overflows d n m = false := by
  obtain ⟨start, hstart, hoffset, -⟩ := LineIndex.lineStart?_of_placeAt h.placeAt
  have hlt := h.lt_length
  simp only [overflows, hlines, hstart, plainOffset, hoffset, decide_eq_false_iff_not]
  omega

lemma position?_of_standsAt : position? d n m = d.translator.position? offset := by
  obtain ⟨start, hstart, hoffset, -⟩ := LineIndex.lineStart?_of_placeAt h.placeAt
  simp [position?, hlines, hstart, plainOffset, hoffset]

lemma reports_draft {place : Position} (hplace : d.translator.position? offset = some place)
    (hword : m.word ≠ []) : Reports d n m (draft c d n m).build where
  text := rfl
  suggestions := rfl
  position := by
    refine ⟨offset, place, h, hplace, ?_, ?_⟩
    · exact (if_neg hword).trans ((position?_of_standsAt hlines h).trans hplace)
    · rintro l column rfl hcolumn
      have hback : d.translator.plainLines.offset? ⟨l, column⟩ = some offset := by
        rw [hlines]
        exact LineIndex.offset?_of_placeAt (hcolumn ▸ h.placeAt)
      simp only [Translator.locate, hback, hplace]

end

/-! ### Whole answers -/

section

variable {path : Path} {source : Text} (hd : d = .ofSource path source)
  (hrows : List.Forall₂ Answers (asked d.plain) rows) (hlength : d.plain.length < 2 ^ 64)

include hrows hlength

lemma legible_rows : ∀ row ∈ rows, ∀ r ∈ row, r.Legible ∧ '\n' ∉ r.render := by
  intro row hrow r hr
  obtain ⟨i, hi, rfl⟩ := List.mem_iff_getElem.1 hrow
  have hi' : i < (asked d.plain).length := by rwa [hrows.length_eq]
  have hfits := hrows.get hi' hi r hr
  have hline := length_le_of_mem_asked (List.get_mem (asked d.plain) ⟨i, hi'⟩)
  exact ⟨hfits.legible (hline.trans hlength), hfits.newline_not_mem_render⟩

include hd

lemma reports_told (c : Config) : ∀ e ∈ told 1 rows, overflows d e.1 e.2 = false ∧
    Reports d e.1 e.2 (draft c d e.1 e.2).build := by
  have hlines : d.translator.plainLines = .ofText d.plain := by rw [hd]; rfl
  intro e he
  obtain ⟨i, line, hline, hn, hfits⟩ := exists_fits hrows he
  obtain ⟨offset, hstands⟩ := exists_standsAt hline hfits
  rw [Nat.add_comm, ← hn] at hstands
  obtain ⟨place, hplace⟩ := exists_place hd hstands.lt_length
  exact ⟨overflows_of_standsAt hlines hstands hlength.le,
    reports_draft hlines hstands hplace hfits.word_ne⟩

/-- **Reading an answer** gives one problem for each word that is missed, in order, in the
place of the source that its character of the plain text comes from. Lines are counted in 32
bits, and characters in 64. -/
theorem read_answer (c : Config) {header : Option Text}
    (hheader : ∀ line ∈ header, line.head? = some '@' ∧ '\n' ∉ line)
    (hcount : (asked d.plain).length + 1 < 2 ^ 32) :
    ∃ ps, read c d (answer header rows) = .found ps ∧
      List.Forall₂ (fun (line, m) p => Reports d line m p) (told 1 rows) ps := by
  have hlegible := legible_rows hrows hlength
  have hreports := reports_told hd hrows hlength c
  have hread : readFrom c d 1 (rows.flatMap rowLines) = .found (report c d (told 1 rows)) := by
    refine readFrom_rows (fun row hrow r hr => (hlegible row hrow r hr).1) ?_
      fun e he => (hreports e he).1
    rw [← hrows.length_eq, Nat.add_comm]
    exact hcount
  refine ⟨report c d (told 1 rows), ?_, ?_⟩
  · rw [read, lines_answer (fun line hl => (hheader line hl).2) fun row hrow r hr =>
      (hlegible row hrow r hr).2]
    cases header with
    | none => exact hread
    | some line =>
      have hpass := Reply.ofLine_dropReturn_eq_pass (by simp) (hheader line rfl).1
      rw [Option.toList_some, List.map_singleton, List.singleton_append, readFrom, hpass]
      exact hread
  · rw [report, List.forall₂_map_right_iff, List.forall₂_same]
    exact fun e he => (hreports e he).2

end

/-- A letter with a return, a line that is only a comment, and an empty line. -/
def letterSource : Text := "Ein Wrot\r\n% weg\n\n\\emph\x7bTset\x7d x".toList

def letter : Document := .ofSource "a.tex".toList letterSource

def letterRemarks : List (List Remark) :=
  [[.other "*".toList, .suggesting ⟨"Wrot".toList, 5, ["Wort".toList, "das Rot".toList]⟩ 2], [],
    [], [.alone "Tset".toList 1, .other "+ X\r".toList]]

theorem read_answer_letter :
    (∀ line ∈ some "@ x".toList, line.head? = some '@' ∧ '\n' ∉ line) ∧
      List.Forall₂ Answers (asked letter.plain) letterRemarks ∧
      (asked letter.plain).length + 1 < 2 ^ 32 ∧ letter.plain.length < 2 ^ 64 ∧
      ∃ ps, read {} letter (answer (some "@ x".toList) letterRemarks) = .found ps ∧
        List.Forall₂ (fun (line, m) p => Reports letter line m p) (told 1 letterRemarks) ps ∧
        ps.map (fun p => (p.text, p.position)) =
          [("Wrot".toList, some ⟨1, 5⟩), ("Tset".toList, some ⟨4, 7⟩)] := by
  have hletter : letter = .ofSource "a.tex".toList letterSource := rfl
  have hplain : letter.plain = "Ein Wrot\r\n\n\nTset x".toList := by cbv
  have hasked : asked letter.plain =
      ["^Ein Wrot".toList, "^".toList, "^".toList, "^Tset x".toList] := by
    rw [hplain]
    decide
  have hheader : ∀ line ∈ some "@ x".toList, line.head? = some '@' ∧ '\n' ∉ line := by simp
  have hwrot : Miss.Fits "^Ein Wrot".toList
      ⟨"Wrot".toList, 5, ["Wort".toList, "das Rot".toList]⟩ := by
    refine ⟨by simp, by simp [Text.isSpace], by simp, by simp, ?_⟩
    refine List.forall_mem_cons.2 ⟨?_, List.forall_mem_singleton.2 ?_⟩
    · exact ⟨by simp, ⟨by simp [Text.isSpace], by simp [Text.isSpace]⟩, by simp, by simp⟩
    · exact ⟨by simp, ⟨by simp [Text.isSpace], by simp [Text.isSpace]⟩, by simp, by simp⟩
  have htset : Miss.Fits "^Tset x".toList ⟨"Tset".toList, 1, []⟩ :=
    ⟨by simp, by simp [Text.isSpace], by simp, by simp, by simp⟩
  have hempty : Answers "^".toList [] := by simp [Answers]
  have hrows : List.Forall₂ Answers (asked letter.plain) letterRemarks := by
    rw [hasked]
    refine .cons ?_ (.cons hempty (.cons hempty (.cons ?_ .nil)))
    · exact List.forall_mem_cons.2 ⟨by simp [Remark.Fits], List.forall_mem_singleton.2 hwrot⟩
    · exact List.forall_mem_cons.2 ⟨htset, List.forall_mem_singleton.2 (by simp [Remark.Fits])⟩
  have hcount : (asked letter.plain).length + 1 < 2 ^ 32 := by
    rw [hasked]
    decide
  have hlength : letter.plain.length < 2 ^ 64 := by
    rw [hplain]
    decide
  obtain ⟨ps, hread, hreports⟩ := read_answer hletter hrows hlength {} hheader hcount
  have hplaces : ((read {} letter (answer (some "@ x".toList) letterRemarks)).problems.map
      fun p => (p.text, p.position)) =
        [("Wrot".toList, some ⟨1, 5⟩), ("Tset".toList, some ⟨4, 7⟩)] := by cbv
  rw [hread] at hplaces
  exact ⟨hheader, hrows, hcount, hlength, ps, hread, hreports, hplaces⟩

end LatexReview.Aspell
