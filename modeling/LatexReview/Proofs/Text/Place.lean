import Mathlib
import LatexReview.Document.Comment
import LatexReview.Proofs.Text.Lines

/-!
The places of a text.

A place stands before some of its characters, or at its end. Its line counts the line breaks
before it, and its column the characters since the last of them. Places further on in a text
come later in the order of lines and columns.
-/

namespace LatexReview.Text

variable {s above row rest : Text} {line column offset : ℕ}

/-! ### The last line -/

lemma lastLine_row (h : above.Ended) (hrow : '\n' ∉ row) :
    Comment.lastLine (above ++ row) = row := by
  have hall : ∀ c ∈ row.reverse, decide (c ≠ '\n') = true := by
    intro c hc
    have hne : c ≠ '\n' := fun heq => hrow (heq ▸ List.mem_reverse.1 hc)
    simpa using hne
  have habove : above.reverse.takeWhile (fun c => decide (c ≠ '\n')) = [] := by
    rcases h with rfl | hlast
    · rfl
    · rw [← List.head?_reverse] at hlast
      obtain ⟨tail, htail⟩ := List.head?_eq_some_iff.1 hlast
      simp [htail]
  rw [Comment.lastLine, List.reverse_append, List.takeWhile_append_of_pos hall, habove,
    List.append_nil, List.reverse_reverse]

lemma exists_lastLine (s : Text) :
    ∃ above, s = above ++ Comment.lastLine s ∧ above.Ended ∧ '\n' ∉ Comment.lastLine s := by
  refine ⟨(s.reverse.dropWhile (· ≠ '\n')).reverse, ?_, ?_, ?_⟩
  · rw [Comment.lastLine, ← List.reverse_append, List.takeWhile_append_dropWhile,
      List.reverse_reverse]
  · cases hdrop : s.reverse.dropWhile (· ≠ '\n') with
    | nil => exact Or.inl rfl
    | cons c tail =>
      have hstop := List.head?_dropWhile_not (fun c => decide (c ≠ '\n')) s.reverse
      rw [hdrop] at hstop
      have hc : c = '\n' := by simpa using hstop
      exact Or.inr (by simp [hc])
  · intro hmem
    have hin := List.mem_reverse.1 hmem
    simpa using List.mem_takeWhile_imp hin

lemma lastLine_append (hrow : '\n' ∉ row) (s : Text) :
    Comment.lastLine (s ++ row) = Comment.lastLine s ++ row := by
  obtain ⟨above, hs, hended, hlast⟩ := exists_lastLine s
  have hboth : '\n' ∉ Comment.lastLine s ++ row := by simp [hlast, hrow]
  have hsplit : s ++ row = above ++ (Comment.lastLine s ++ row) := by
    rw [← List.append_assoc, ← hs]
  rw [hsplit, lastLine_row hended hboth]

/-! ### Places -/

/-- A line and a column, counted from one, are those of an offset of a text. The end of the
text has a place, too. -/
structure PlaceAt (s : Text) (line column offset : ℕ) : Prop where
  inside : offset ≤ s.length
  line_eq : line = (s.take offset).count '\n' + 1
  column_eq : column = (Comment.lastLine (s.take offset)).length + 1

lemma exists_placeAt (h : offset ≤ s.length) : ∃ line column, s.PlaceAt line column offset :=
  ⟨_, _, h, rfl, rfl⟩

lemma placeAt_row (h : above.Ended) (hrow : '\n' ∉ row) (rest : Text) :
    PlaceAt (above ++ (row ++ rest)) (above.count '\n' + 1) (row.length + 1)
      (above.length + row.length) := by
  have htake : (above ++ (row ++ rest)).take (above.length + row.length) = above ++ row := by
    rw [← List.append_assoc, ← List.length_append, List.take_left]
  refine ⟨?_, ?_, ?_⟩
  · simp only [List.length_append]
    omega
  · rw [htake, List.count_append, List.count_eq_zero.2 hrow, Nat.add_zero]
  · rw [htake, lastLine_row h hrow]

lemma PlaceAt.exists_row (h : s.PlaceAt line column offset) :
    ∃ above row rest, s = above ++ (row ++ rest) ∧ above.Ended ∧ '\n' ∉ row ∧
      line = above.count '\n' + 1 ∧ column = row.length + 1 ∧
      offset = above.length + row.length := by
  obtain ⟨above, hsplit, hended, hrow⟩ := exists_lastLine (s.take offset)
  have hlength : offset = above.length + (Comment.lastLine (s.take offset)).length := by
    rw [← List.length_append, ← hsplit, List.length_take, Nat.min_eq_left h.inside]
  refine ⟨above, Comment.lastLine (s.take offset), s.drop offset, ?_, hended, hrow, ?_,
    h.column_eq, hlength⟩
  · rw [← List.append_assoc, ← hsplit, List.take_append_drop]
  · calc
      line = (s.take offset).count '\n' + 1 := h.line_eq
      _ = (above ++ Comment.lastLine (s.take offset)).count '\n' + 1 := by rw [← hsplit]
      _ = above.count '\n' + 1 := by
        rw [List.count_append, List.count_eq_zero.2 hrow, Nat.add_zero]

lemma StandsAt.placeAt (h : s.StandsAt line column offset) : s.PlaceAt line column offset := by
  obtain ⟨above, row, c, rest, rfl, hended, hline, rfl, rfl, rfl⟩ := h
  exact placeAt_row hended (fun hm => hline (List.mem_append_left _ hm)) (c :: rest)

lemma PlaceAt.le_of_le {line' column' offset' : ℕ} (h : s.PlaceAt line column offset)
    (h' : s.PlaceAt line' column' offset') (hle : offset ≤ offset') :
    line < line' ∨ line = line' ∧ column ≤ column' := by
  obtain ⟨middle, hmiddle⟩ : ∃ middle, s.take offset' = s.take offset ++ middle := by
    refine ⟨(s.take offset').drop offset, ?_⟩
    have htake : (s.take offset').take offset = s.take offset := by
      rw [List.take_take, Nat.min_eq_left hle]
    rw [← htake, List.take_append_drop]
  have hcount : line' = line + middle.count '\n' := by
    rw [h'.line_eq, h.line_eq, hmiddle, List.count_append]
    omega
  by_cases hbreak : '\n' ∈ middle
  · have hpos : 0 < middle.count '\n' := List.count_pos_iff.2 hbreak
    exact Or.inl (by omega)
  · have hzero : middle.count '\n' = 0 := List.count_eq_zero.2 hbreak
    have hcolumn : column' = column + middle.length := by
      rw [h'.column_eq, h.column_eq, hmiddle, lastLine_append hbreak, List.length_append]
      omega
    exact Or.inr ⟨by omega, by omega⟩

end LatexReview.Text
