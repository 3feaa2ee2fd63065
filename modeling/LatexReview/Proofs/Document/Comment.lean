import Mathlib
import LatexReview.Proofs.LineIndex

/-!
Cutting the comments out of a text.

Each line is cut by itself. One scan of the whole text does the same: it remembers no more than
whether a backslash is in effect or a comment has begun, and the end of a line ends both. So
what is cut from a text does not depend on what comes behind it. Every place of the text becomes
one of the cut text, in the same line, and in the same column unless it is in a comment.
-/

namespace LatexReview.Comment

/-- A text with each of its lines cut before its comment. -/
def stripLines (s : Text) : Text := Text.join ['\n'] ((s.splitOn '\n').map strip)

/-- What a scan for comments is in the middle of. -/
inductive Mode where
  | text
  /-- Just after a backslash that is in effect. -/
  | escaped
  | comment
deriving DecidableEq

/-- The mode behind a character. -/
def Mode.next (m : Mode) (c : Char) : Mode :=
  if c = '\n' then .text
  else match m with
    | .text => if c = '\\' then .escaped else if c = '%' then .comment else .text
    | .escaped => .text
    | .comment => .comment

/-- The mode behind a text. -/
def modeAfter (s : Text) : Mode := s.foldl Mode.next .text

/-- What is left of a text that is scanned from some mode on. -/
def cut : Mode → Text → Text
  | _, [] => []
  | m, c :: rest => if m.next c = .comment then cut .comment rest else c :: cut (m.next c) rest

variable {s line : Text} {m : Mode} {c : Char} {offset : ℕ}

@[simp] lemma next_newline (m : Mode) : m.next '\n' = .text := rfl

lemma next_comment (h : c ≠ '\n') : Mode.comment.next c = .comment := if_neg h

lemma eq_percent_of_next (hm : m ≠ .comment) (h : m.next c = .comment) :
    m = .text ∧ c = '%' := by
  have hc : c ≠ '\n' := by
    rintro rfl
    simp at h
  cases m with
  | text =>
    by_cases hslash : c = '\\'
    · simp [Mode.next, hslash] at h
    by_cases hpercent : c = '%'
    · exact ⟨rfl, hpercent⟩
    · simp [Mode.next, hc, hslash, hpercent] at h
  | escaped => simp [Mode.next] at h
  | comment => exact absurd rfl hm

lemma modeAfter_concat (s : Text) (c : Char) : modeAfter (s ++ [c]) = (modeAfter s).next c := by
  simp [modeAfter]

lemma cut_append (m : Mode) (a b : Text) :
    cut m (a ++ b) = cut m a ++ cut (a.foldl Mode.next m) b := by
  induction a generalizing m with
  | nil => rfl
  | cons c a ih =>
    rw [List.cons_append, cut, cut, List.foldl_cons]
    split_ifs with h
    · rw [h, ih]
    · rw [ih, List.cons_append]

/-! ### Line by line -/

lemma foldl_comment_line (h : '\n' ∉ line) : line.foldl Mode.next .comment = .comment := by
  induction line with
  | nil => rfl
  | cons c line ih =>
    simp only [List.mem_cons, not_or] at h
    rw [List.foldl_cons, next_comment (Ne.symm h.1), ih h.2]

lemma cut_comment_line (h : '\n' ∉ line) : cut .comment line = [] := by
  induction line with
  | nil => rfl
  | cons c line ih =>
    simp only [List.mem_cons, not_or] at h
    rw [cut, if_pos (next_comment (Ne.symm h.1)), ih h.2]

lemma cut_line (h : '\n' ∉ line) (escaped : Bool) :
    cut (if escaped then .escaped else .text) line = stripFrom escaped line := by
  induction line generalizing escaped with
  | nil => rfl
  | cons c line ih =>
    simp only [List.mem_cons, not_or] at h
    have hc : c ≠ '\n' := Ne.symm h.1
    have htext := ih h.2 false
    have hescaped := ih h.2 true
    simp only [Bool.false_eq_true, ↓reduceIte] at htext hescaped
    rw [cut, stripFrom]
    cases escaped with
    | true => by_cases hslash : c = '\\' <;> simp [Mode.next, hc, hslash, htext]
    | false =>
      by_cases hslash : c = '\\'
      · simp [Mode.next, hslash, hescaped]
      by_cases hpercent : c = '%'
      · simp [Mode.next, hpercent, cut_comment_line h.2]
      · simp [Mode.next, hc, hslash, hpercent, htext]

lemma cut_eq_strip (h : '\n' ∉ line) : cut .text line = strip line := cut_line h false

lemma cut_line_append (h : '\n' ∉ line) (rest : Text) :
    cut .text (line ++ '\n' :: rest) = strip line ++ '\n' :: cut .text rest := by
  rw [cut_append, cut_eq_strip h, cut, next_newline, if_neg (by decide)]

/-- **Line by line is what one scan does.** -/
lemma stripLines_eq_cut (s : Text) : stripLines s = cut .text s := by
  induction hn : s.length using Nat.strong_induction_on generalizing s with
  | h n ih =>
    subst hn
    rcases Text.not_mem_or_exists_line s with hs | ⟨line, rest, rfl, hline⟩
    · rw [stripLines, List.splitOn_eq_singleton hs, List.map_singleton, Text.join,
        List.intercalate_singleton, cut_eq_strip hs]
    · have hrest : stripLines rest = cut .text rest := ih _ (by simp; omega) rest rfl
      rw [cut_line_append hline, ← hrest, stripLines, Text.splitOn_line hline, List.map_cons,
        Text.join, List.intercalate_cons_of_ne_nil (by simp [List.splitOn_ne_nil])]
      simp [stripLines, Text.join]

lemma stripLines_append (a b : Text) :
    stripLines (a ++ b) = stripLines a ++ cut (modeAfter a) b := by
  rw [stripLines_eq_cut, stripLines_eq_cut, cut_append, modeAfter]

lemma stripLines_concat (s : Text) (c : Char) :
    stripLines (s ++ [c]) =
      stripLines s ++ if (modeAfter (s ++ [c])) = .comment then [] else [c] := by
  rw [stripLines_append, modeAfter_concat, cut]
  split_ifs <;> rfl

/-! ### What is left -/

lemma count_cut (m : Mode) (s : Text) : (cut m s).count '\n' = s.count '\n' := by
  induction s generalizing m with
  | nil => rfl
  | cons c s ih =>
    rw [cut]
    split_ifs with h
    · have hc : c ≠ '\n' := by
        rintro rfl
        simp at h
      rw [ih, List.count_cons_of_ne hc]
    · rw [List.count_cons, List.count_cons, ih]

lemma head?_cut_comment (s : Text) : ∀ c ∈ (cut .comment s).head?, c = '\n' := by
  induction s with
  | nil => simp [cut]
  | cons d s ih =>
    by_cases hd : d = '\n'
    · simp [cut, hd]
    · rwa [cut, if_pos (next_comment hd)]

lemma cut_eq_self (hline : '\n' ∉ line) (h : line.foldl Mode.next m ≠ .comment) :
    cut m line = line := by
  induction line generalizing m with
  | nil => rfl
  | cons c line ih =>
    simp only [List.mem_cons, not_or] at hline
    rw [List.foldl_cons] at h
    have hc : m.next c ≠ .comment := by
      intro hcomment
      rw [hcomment] at h
      exact h (foldl_comment_line hline.2)
    rw [cut, if_neg hc, ih hline.2 h]

lemma modeAfter_ended (h : s.Ended) : modeAfter s = .text := by
  rcases h.eq_nil_or_concat with rfl | ⟨body, rfl⟩
  · rfl
  · rw [modeAfter_concat, next_newline]

lemma stripLines_ended (h : s.Ended) : Text.Ended (stripLines s) := by
  rcases h.eq_nil_or_concat with rfl | ⟨body, rfl⟩
  · exact .inl rfl
  · right
    rw [stripLines_concat, modeAfter_concat, next_newline]
    simp

lemma lastLine_stripLines (s : Text) : lastLine (stripLines s) = strip (lastLine s) := by
  obtain ⟨above, hs, hended, hline⟩ := Text.exists_lastLine s
  have hcut : stripLines s = stripLines above ++ strip (lastLine s) := by
    conv_lhs => rw [hs]
    rw [stripLines_append, modeAfter_ended hended, cut_eq_strip hline]
  have hbreak : '\n' ∉ strip (lastLine s) := by
    rw [← List.count_eq_zero, ← cut_eq_strip hline, count_cut, List.count_eq_zero.2 hline]
  rw [hcut, Text.lastLine_row (stripLines_ended hended) hbreak]

lemma strip_lastLine (h : modeAfter s ≠ .comment) : strip (lastLine s) = lastLine s := by
  obtain ⟨above, hs, hended, hline⟩ := Text.exists_lastLine s
  have hmode : modeAfter s = (lastLine s).foldl Mode.next .text := by
    conv_lhs => rw [hs]
    rw [modeAfter, List.foldl_append, ← modeAfter, modeAfter_ended hended]
  rw [← cut_eq_strip hline, cut_eq_self hline (by rwa [← hmode])]

lemma modeAfter_of_covers (h : covers s) : modeAfter s = .comment := by
  by_contra hmode
  simp [covers, strip_lastLine hmode] at h

lemma length_stripFrom_le (escaped : Bool) (line : Text) :
    (stripFrom escaped line).length ≤ line.length := by
  fun_induction stripFrom escaped line with
  | case1 => exact le_rfl
  | case3 => exact Nat.zero_le _
  | case2 | case4 => simpa

lemma length_strip_lastLine (h : covers s = false) :
    (strip (lastLine s)).length = (lastLine s).length :=
  le_antisymm (length_stripFrom_le false _) (by simpa [covers] using h)

/-! ### Places -/

/-- Where an offset of a text is when the text has been cut. -/
def cutOffset (s : Text) (offset : ℕ) : ℕ := (stripLines (s.take offset)).length

lemma stripLines_split (s : Text) (offset : ℕ) :
    stripLines s = stripLines (s.take offset) ++
      cut (modeAfter (s.take offset)) (s.drop offset) := by
  rw [← stripLines_append, List.take_append_drop]

lemma take_stripLines (s : Text) (offset : ℕ) :
    (stripLines s).take (cutOffset s offset) = stripLines (s.take offset) := by
  rw [stripLines_split s offset, cutOffset, List.take_left]

lemma placeAt_cutOffset (s : Text) (offset : ℕ) :
    (stripLines s).PlaceAt ((s.take offset).count '\n' + 1)
      ((strip (lastLine (s.take offset))).length + 1) (cutOffset s offset) := by
  refine ⟨?_, ?_, ?_⟩
  · rw [stripLines_split s offset, List.length_append]
    exact Nat.le_add_right _ _
  · rw [take_stripLines, stripLines_eq_cut, count_cut]
  · rw [take_stripLines, lastLine_stripLines]

lemma exists_positions (h : offset ≤ s.length) :
    ∃ p q, (LineIndex.ofText s).position? offset = some p ∧
      (LineIndex.ofText (stripLines s)).position? (cutOffset s offset) = some q ∧
      q.line = p.line ∧
      q.column = .ofNat ((strip (lastLine (s.take offset))).length + 1) ∧
      (covers (s.take offset) = false → q = p) := by
  refine ⟨_, _, LineIndex.position?_of_placeAt ⟨h, rfl, rfl⟩,
    LineIndex.position?_of_placeAt (placeAt_cutOffset s offset), rfl, rfl, fun hcovers => ?_⟩
  rw [length_strip_lastLine hcovers]

lemma getElem?_cutOffset (hm : modeAfter (s.take offset) = .comment)
    (h : (stripLines s)[cutOffset s offset]? = some c) : c = '\n' := by
  rw [stripLines_split s offset, cutOffset, List.getElem?_append_right le_rfl, Nat.sub_self, hm,
    ← List.head?_eq_getElem?] at h
  exact head?_cut_comment _ c h

end LatexReview.Comment
