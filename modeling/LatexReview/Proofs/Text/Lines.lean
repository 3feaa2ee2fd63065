import Mathlib
import LatexReview.Text.Basic

/-!
The lines of a text.

A text of whole lines reads back as these lines, and each line of any text stands behind a
stretch of whole lines.
-/

namespace LatexReview.Text

variable {s before line rest : Text}

/-- A text of whole lines, each with its line break. -/
def ofLines (lines : List Text) : Text := lines.flatMap (· ++ ['\n'])

@[simp] lemma ofLines_nil : ofLines [] = [] := rfl
@[simp] lemma ofLines_cons (line : Text) (lines : List Text) :
    ofLines (line :: lines) = line ++ '\n' :: ofLines lines := by
  simp [ofLines]

/-- No line of a text is left open at its end. -/
def Ended (s : Text) : Prop := s = [] ∨ s.getLast? = some '\n'

lemma Ended.eq_nil_or_concat (h : Ended s) : s = [] ∨ ∃ body, s = body ++ ['\n'] :=
  h.imp_right fun hlast => ⟨_, (List.dropLast_append_getLast? _ hlast).symm⟩

lemma Ended.behind (h : Ended s) (line : Text) : Ended (line ++ '\n' :: s) := by
  rcases h with rfl | h
  · exact Or.inr (by simp)
  · exact Or.inr (by simp [List.getLast?_cons, h])

/-! ### Returns -/

lemma dropReturn_cases (line : Text) :
    (∃ before, line = before ++ ['\r'] ∧ line.dropReturn = before) ∨
      line.getLast? ≠ some '\r' ∧ line.dropReturn = line := by
  unfold dropReturn stripEnd?
  split
  · rename_i h
    obtain ⟨before, rfl⟩ := List.isSuffixOf_iff_suffix.1 h
    exact Or.inl ⟨before, rfl, by simp⟩
  · rename_i h
    refine Or.inr ⟨fun hlast => h (List.isSuffixOf_iff_suffix.2 ?_), rfl⟩
    exact ⟨line.dropLast, List.dropLast_append_getLast? _ hlast⟩

lemma dropReturn_of_getLast? (h : line.getLast? ≠ some '\r') : line.dropReturn = line := by
  rcases dropReturn_cases line with ⟨before, rfl, -⟩ | ⟨-, hdrop⟩
  · simp at h
  · exact hdrop

lemma dropReturn_of_not_mem (h : '\r' ∉ line) : line.dropReturn = line :=
  dropReturn_of_getLast? fun hlast => h (List.mem_of_getLast? hlast)

lemma exists_dropReturn_append (line : Text) : ∃ tail, line.dropReturn ++ tail = line := by
  rcases dropReturn_cases line with ⟨before, hline, hdrop⟩ | ⟨-, hdrop⟩
  · exact ⟨['\r'], by rw [hdrop, hline]⟩
  · exact ⟨[], by rw [hdrop, List.append_nil]⟩

lemma head?_dropReturn {c : Char} (h : line.head? = some c) (hc : c ≠ '\r') :
    line.dropReturn.head? = some c := by
  rcases dropReturn_cases line with ⟨before, hline, hdrop⟩ | ⟨-, hdrop⟩
  · rw [hdrop]
    subst hline
    cases before with
    | nil => simp [hc.symm] at h
    | cons d before => simpa using h
  · rwa [hdrop]

/-! ### Line by line -/

lemma splitOn_line (h : '\n' ∉ line) (rest : Text) :
    (line ++ '\n' :: rest).splitOn '\n' = line :: rest.splitOn '\n' := by
  rw [List.splitOn_append_cons_of_beq _ _ (by simp), List.splitOn_eq_singleton h]
  rfl

lemma lines_line (h : '\n' ∉ line) (rest : Text) :
    lines (line ++ '\n' :: rest) = line.dropReturn :: lines rest := by
  have hne := List.splitOn_ne_nil '\n' rest
  obtain ⟨first, last, hrest⟩ : ∃ first last, rest.splitOn '\n' = first ++ [last] :=
    ⟨_, _, (List.dropLast_append_getLast hne).symm⟩
  have hall : (line :: (first ++ [last])).dropLast = line :: first := by
    rw [← List.cons_append, List.dropLast_concat]
  have hlast : (line :: (first ++ [last])).getLastD [] = last := by
    rw [← List.cons_append, List.getLastD_concat]
  rw [lines, lines, splitOn_line h, hrest, hall, hlast, List.dropLast_concat, List.getLastD_concat,
    List.map_cons, List.cons_append]

lemma lines_of_not_mem (h : '\n' ∉ s) : lines s = if s = [] then [] else [s] := by
  rw [lines, List.splitOn_eq_singleton h]
  rfl

/-- **Whole lines read back**, without the returns at their ends. -/
lemma lines_ofLines {ls : List Text} (h : ∀ line ∈ ls, '\n' ∉ line) :
    lines (ofLines ls) = ls.map dropReturn := by
  induction ls with
  | nil => simp [lines]
  | cons line ls ih =>
    rw [ofLines_cons, lines_line (h line (by simp)), ih fun other ho => h other (by simp [ho]),
      List.map_cons]

lemma lines_ofLines_eq {ls : List Text} (h : ∀ line ∈ ls, '\n' ∉ line)
    (hreturn : ∀ line ∈ ls, line.getLast? ≠ some '\r') : lines (ofLines ls) = ls := by
  calc
    lines (ofLines ls) = ls.map dropReturn := lines_ofLines h
    _ = ls.map id := List.map_congr_left fun line hl => dropReturn_of_getLast? (hreturn line hl)
    _ = ls := List.map_id ls

lemma splitOn_ofLines {ls : List Text} (h : ∀ line ∈ ls, '\n' ∉ line) :
    (ofLines ls).splitOn '\n' = ls ++ [[]] := by
  induction ls with
  | nil => rfl
  | cons line ls ih =>
    rw [ofLines_cons, splitOn_line (h line (by simp)), ih fun other ho => h other (by simp [ho]),
      List.cons_append]

lemma not_mem_or_exists_line (s : Text) :
    '\n' ∉ s ∨ ∃ line rest, s = line ++ '\n' :: rest ∧ '\n' ∉ line := by
  by_cases h : '\n' ∈ s
  · exact Or.inr (List.eq_append_cons_of_mem h)
  · exact Or.inl h

lemma exists_line {i : ℕ} (h : (lines s)[i]? = some line) :
    ∃ before after, s = before ++ (line ++ after) ∧ Ended before ∧ before.count '\n' = i ∧
      '\n' ∉ line := by
  induction i generalizing s with
  | zero =>
    rcases not_mem_or_exists_line s with hs | ⟨first, rest, rfl, hfirst⟩
    · rw [lines_of_not_mem hs] at h
      obtain rfl : s = line := by
        split at h
        · simp at h
        · simpa using h
      exact ⟨[], [], by simp, Or.inl rfl, rfl, hs⟩
    · rw [lines_line hfirst] at h
      obtain rfl : first.dropReturn = line := by simpa using h
      obtain ⟨tail, htail⟩ := exists_dropReturn_append first
      refine ⟨[], tail ++ '\n' :: rest, ?_, Or.inl rfl, rfl, fun hm => hfirst ?_⟩
      · rw [List.nil_append, ← List.append_assoc, htail]
      · exact htail ▸ List.mem_append_left tail hm
  | succ i ih =>
    rcases not_mem_or_exists_line s with hs | ⟨first, rest, rfl, hfirst⟩
    · rw [lines_of_not_mem hs] at h
      split at h <;> simp at h
    · rw [lines_line hfirst, List.getElem?_cons_succ] at h
      obtain ⟨before, after, rfl, hended, hcount, hline⟩ := ih h
      refine ⟨first ++ '\n' :: before, after, by simp, hended.behind first, ?_, hline⟩
      simp [List.count_eq_zero.2 hfirst, hcount]

lemma not_mem_of_mem_lines (h : line ∈ lines s) : '\n' ∉ line := by
  obtain ⟨i, hi⟩ := List.mem_iff_getElem?.1 h
  obtain ⟨-, -, -, -, -, hline⟩ := exists_line hi
  exact hline

lemma length_le_of_mem_lines (h : line ∈ lines s) : line.length ≤ s.length := by
  obtain ⟨i, hi⟩ := List.mem_iff_getElem?.1 h
  obtain ⟨before, after, rfl, -⟩ := exists_line hi
  simp only [List.length_append]
  omega

/-- The character at an offset stands in a column of a line, both counted from one. -/
def StandsAt (s : Text) (line column offset : ℕ) : Prop :=
  ∃ before start c after, s = before ++ (start ++ c :: after) ∧ Ended before ∧
    '\n' ∉ start ++ [c] ∧ line = before.count '\n' + 1 ∧ column = start.length + 1 ∧
    offset = before.length + start.length

lemma exists_standsAt {i column : ℕ} (h : (lines s)[i]? = some line) (hpos : 0 < column)
    (hle : column ≤ line.length) : ∃ offset, StandsAt s (i + 1) column offset := by
  obtain ⟨before, after, hs, hended, hcount, hline⟩ := exists_line h
  obtain ⟨start, c, rest, rfl, hcolumn⟩ :
      ∃ start c rest, line = start ++ c :: rest ∧ column = start.length + 1 := by
    have hlt : column - 1 < line.length := by omega
    refine ⟨line.take (column - 1), line.get ⟨column - 1, hlt⟩, line.drop (column - 1 + 1), ?_, ?_⟩
    · rw [List.get_eq_getElem, ← List.drop_eq_getElem_cons hlt, List.take_append_drop]
    · rw [List.length_take]
      omega
  refine ⟨before.length + start.length, before, start, c, rest ++ after, by simpa using hs,
    hended, fun hm => hline ?_, by rw [hcount], hcolumn, rfl⟩
  rw [← List.singleton_append, ← List.append_assoc]
  exact List.mem_append_left rest hm

lemma StandsAt.lt_length {column offset n : ℕ} (h : StandsAt s n column offset) :
    offset < s.length := by
  obtain ⟨before, start, c, after, rfl, -, -, -, -, rfl⟩ := h
  simp

end LatexReview.Text
