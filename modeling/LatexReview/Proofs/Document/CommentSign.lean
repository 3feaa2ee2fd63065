import Mathlib
import LatexReview.Proofs.Document.Place
import LatexReview.Proofs.Text.Place

/-!
Where comments begin.

A percent sign begins a comment unless the backslashes right before it are odd in number: then
the last of them escapes it. The scan of a line only keeps whether a backslash is in effect, and
that is whether their number is odd so far.
-/

namespace LatexReview

namespace Comment

variable {s t above before line rest kept : Text} {c : Char} {i : ℕ}

/-- The number of backslashes that a text ends with. -/
def slashes (s : Text) : ℕ := (s.reverse.takeWhile (· = '\\')).length

/-- A comment begins at a percent sign with an even number of backslashes right before it. -/
def BeginsAt (s : Text) (i : ℕ) : Prop := s[i]? = some '%' ∧ Even (slashes (s.take i))

/-- What is left of a line is the text before its first comment sign, or the whole line if there
is none. -/
def CutAtSign (line kept : Text) : Prop :=
  (∃ i, BeginsAt line i ∧ (∀ j < i, ¬ BeginsAt line j) ∧ kept = line.take i) ∨
    (∀ i, ¬ BeginsAt line i) ∧ kept = line

/-! ### Backslashes -/

lemma slashes_concat (s : Text) (c : Char) :
    slashes (s ++ [c]) = if c = '\\' then slashes s + 1 else 0 := by
  by_cases hc : c = '\\' <;> simp [slashes, hc]

lemma slashes_append (h : above.Ended) (s : Text) : slashes (above ++ s) = slashes s := by
  induction s using List.reverseRecOn with
  | nil =>
    rcases h.eq_nil_or_concat with rfl | ⟨body, rfl⟩
    · rfl
    · rw [List.append_nil, slashes_concat]
      rfl
  | append_singleton s c ih => rw [← List.append_assoc, slashes_concat, slashes_concat, ih]

/-! ### Comment signs -/

lemma BeginsAt.lt_length (h : BeginsAt s i) : i < s.length :=
  (List.getElem?_eq_some_iff.1 h.1).1

lemma beginsAt_append_left (h : i < s.length) : BeginsAt (s ++ t) i ↔ BeginsAt s i := by
  rw [BeginsAt, BeginsAt, List.getElem?_append_left h, List.take_append_of_le_length h.le]

lemma beginsAt_append_right (h : above.Ended) (s : Text) (i : ℕ) :
    BeginsAt (above ++ s) (above.length + i) ↔ BeginsAt s i := by
  rw [BeginsAt, BeginsAt, List.getElem?_append_right (Nat.le_add_right _ _),
    Nat.add_sub_cancel_left, List.take_length_add_append, slashes_append h]

lemma beginsAt_length :
    BeginsAt (s ++ '%' :: rest) s.length ↔ Even (slashes s) := by
  simp [BeginsAt]

/-! ### Cutting a line -/

lemma stripFrom_append (h : ∀ i, before.length ≤ i → ¬ BeginsAt (before ++ line) i)
    (rest : Text) :
    stripFrom (decide (Odd (slashes before))) (line ++ rest) =
      line ++ stripFrom (decide (Odd (slashes (before ++ line)))) rest := by
  induction line generalizing before with
  | nil => simp
  | cons c line ih =>
    have hassoc : before ++ c :: line = before ++ [c] ++ line := by simp
    have hnext : ∀ i, (before ++ [c]).length ≤ i → ¬ BeginsAt (before ++ [c] ++ line) i := by
      intro i hi
      rw [← hassoc]
      exact h i (by simp at hi; omega)
    have hrest := ih hnext
    rw [slashes_concat] at hrest
    rw [List.cons_append, stripFrom, hassoc, List.cons_append, ← hrest]
    by_cases hslash : c = '\\'
    · have hflip : decide (Odd (slashes before + 1)) = !decide (Odd (slashes before)) := by
        rw [← decide_not]
        exact decide_eq_decide.2 Nat.odd_add_one
      rw [if_pos hslash, if_pos hslash, hflip]
    by_cases hpercent : c = '%'
    · -- The sign begins no comment, so a backslash is in effect.
      subst hpercent
      have hodd : Odd (slashes before) := by
        rw [← Nat.not_even_iff_odd, ← beginsAt_length]
        exact h _ le_rfl
      simp [hodd]
    · simp [hslash, hpercent]

lemma cutAtSign_strip (line : Text) : CutAtSign line (strip line) := by
  classical
  have hscan : strip line = stripFrom (decide (Odd (slashes []))) line := rfl
  by_cases h : ∃ i, BeginsAt line i
  · obtain ⟨hsign, hfirst⟩ : BeginsAt line (Nat.find h) ∧ ∀ j < Nat.find h, ¬ BeginsAt line j :=
      ⟨Nat.find_spec h, fun j hj => Nat.find_min h hj⟩
    generalize Nat.find h = i at hsign hfirst
    obtain ⟨hi, hpercent⟩ := List.getElem?_eq_some_iff.1 hsign.1
    have hsplit : line = line.take i ++ '%' :: line.drop (i + 1) := by
      rw [← hpercent, ← List.drop_eq_getElem_cons hi, List.take_append_drop]
    have hnone : ∀ j, ([] : Text).length ≤ j → ¬ BeginsAt ([] ++ line.take i) j := by
      intro j _ hj
      have hlt : j < i := by simpa [hi.le] using hj.lt_length
      refine hfirst j hlt ?_
      rw [hsplit]
      exact (beginsAt_append_left (by simpa [hi.le] using hlt)).2 hj
    refine Or.inl ⟨i, hsign, hfirst, ?_⟩
    conv_lhs => rw [hscan, hsplit, stripFrom_append hnone]
    simp [stripFrom, hsign.2]
  · rw [not_exists] at h
    have hnone : ∀ j, ([] : Text).length ≤ j → ¬ BeginsAt ([] ++ line) j := fun j _ => h j
    refine Or.inr ⟨h, ?_⟩
    have hwhole := stripFrom_append hnone []
    rwa [List.append_nil, ← hscan, stripFrom, List.append_nil] at hwhole

/-! ### Places in comments -/

lemma CutAtSign.length_lt_iff (h : CutAtSign line kept) :
    kept.length < line.length ↔ ∃ i, BeginsAt line i := by
  rcases h with ⟨i, hsign, -, rfl⟩ | ⟨hnone, rfl⟩
  · have hi := hsign.lt_length
    simp only [List.length_take]
    exact ⟨fun _ => ⟨i, hsign⟩, fun _ => by omega⟩
  · simpa using hnone

/-- **A place is in a comment** just when a comment sign stands before it in its line. -/
lemma covers_iff : covers s = true ↔ ∃ i, BeginsAt s i ∧ '\n' ∉ s.drop i := by
  obtain ⟨above, hs, hended, hrow⟩ := Text.exists_lastLine s
  rw [covers, decide_eq_true_iff, (cutAtSign_strip (lastLine s)).length_lt_iff]
  generalize lastLine s = row at hs hrow
  subst hs
  constructor
  · rintro ⟨i, hi⟩
    refine ⟨above.length + i, (beginsAt_append_right hended row i).2 hi, ?_⟩
    rw [List.drop_length_add_append]
    exact fun hmem => hrow (List.mem_of_mem_drop hmem)
  · rintro ⟨i, hi, hline⟩
    obtain ⟨j, rfl⟩ : ∃ j, i = above.length + j := by
      refine Nat.exists_eq_add_of_le (Nat.le_of_not_lt fun hlt => hline ?_)
      -- A sign above stands before the end of its line.
      rcases hended.eq_nil_or_concat with rfl | ⟨body, rfl⟩
      · simp at hlt
      · have hbody : i ≤ body.length := by simpa [Nat.lt_succ_iff] using hlt
        rw [List.append_assoc, List.drop_append_of_le_length hbody]
        simp
    exact ⟨j, (beginsAt_append_right hended row j).1 hi⟩

lemma covers_append (h : covers s = true) (ht : '\n' ∉ t) : covers (s ++ t) = true := by
  obtain ⟨i, hi, hline⟩ := covers_iff.1 h
  refine covers_iff.2 ⟨i, (beginsAt_append_left hi.lt_length).2 hi, ?_⟩
  rw [List.drop_append_of_le_length hi.lt_length.le, List.mem_append, not_or]
  exact ⟨hline, ht⟩

end Comment

namespace Document

variable {d : Document} {before row rest : Text}

lemma isByteCommentedOut_byteLength (h : d.source = before ++ rest) :
    d.isByteCommentedOut (Text.byteLength before) = Comment.covers before := by
  rw [isByteCommentedOut, h, charsBefore?_byteLength]
  dsimp only
  rw [isCommentedOut, h, List.take_left]

/-- **A line is cut at its first comment sign**, and a place of a document, told in bytes, is in a
comment just when such a sign stands before it in its line. So the rest of the line is in the
comment, too. -/
theorem commented_out_by_sign (line : Text) (h : d.source = before ++ (row ++ rest)) :
    Comment.CutAtSign line (Comment.strip line) ∧
      (d.isByteCommentedOut (Text.byteLength before) = true ↔
        ∃ i < before.length, Comment.BeginsAt d.source i ∧ '\n' ∉ before.drop i) ∧
      ('\n' ∉ row → d.isByteCommentedOut (Text.byteLength before) = true →
        d.isByteCommentedOut (Text.byteLength (before ++ row)) = true) := by
  refine ⟨Comment.cutAtSign_strip line, ?_, fun hrow hbefore => ?_⟩
  · rw [isByteCommentedOut_byteLength h, Comment.covers_iff, h]
    constructor
    · rintro ⟨i, hi, hline⟩
      exact ⟨i, hi.lt_length, (Comment.beginsAt_append_left hi.lt_length).2 hi, hline⟩
    · rintro ⟨i, hlt, hi, hline⟩
      exact ⟨i, (Comment.beginsAt_append_left hlt).1 hi, hline⟩
  · have hbehind : d.source = before ++ row ++ rest := by rw [h, List.append_assoc]
    rw [isByteCommentedOut_byteLength h] at hbefore
    rw [isByteCommentedOut_byteLength hbehind]
    exact Comment.covers_append hbefore hrow

/-- An escaped sign, then a letter of two bytes and a sign that begins a comment. -/
def remarked : Document := .ofSource "a.tex".toList "\\%é% no\nb".toList

theorem commented_out_by_sign_remarked :
    Comment.CutAtSign "\\%é% no".toList "\\%é".toList ∧
      (∃ i < 4, Comment.BeginsAt remarked.source i ∧ '\n' ∉ "\\%é%".toList.drop i) ∧
      remarked.isByteCommentedOut 5 = true ∧ remarked.isByteCommentedOut 8 = true := by
  have hsource : remarked.source = "\\%é%".toList ++ (" no".toList ++ "\nb".toList) := by
    decide +kernel
  have hkept : Comment.strip "\\%é% no".toList = "\\%é".toList := by decide +kernel
  obtain ⟨hcut, hplace, hrow⟩ := commented_out_by_sign "\\%é% no".toList hsource
  have hsign : remarked.isByteCommentedOut 5 = true :=
    hplace.2 ⟨3, by decide, ⟨by decide +kernel, by decide +kernel⟩, by decide⟩
  exact ⟨hkept ▸ hcut, hplace.1 hsign, hsign, hrow (by decide) hsign⟩

end Document

end LatexReview
