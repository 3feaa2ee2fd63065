import Mathlib
import LatexReview.Bibliography.Similarity

/-!
The table of two texts, and the ratio that it leads to.

For the beginnings of both texts up to a row and a column, the table holds the length of a
longest common subsequence. A row is filled over what is left of an older one; only the entries
on the left of a column are read, and these are new. So the ratio of two texts is the same both
ways, and is one for a text and itself alone.
-/

namespace LatexReview.Bibliography

variable {a b s : Text} {c d : Char} {m n : ℕ}

/-! ### Longest common subsequences -/

/-- The length of a longest common subsequence of two texts. -/
def Longest (a b : Text) (n : ℕ) : Prop :=
  IsGreatest {n | ∃ s : Text, s.Sublist a ∧ s.Sublist b ∧ s.length = n} n

lemma sublist_concat_iff : s.Sublist (a ++ [c]) ↔ s.Sublist a ∨
    ∃ front, s = front ++ [c] ∧ front.Sublist a := by
  rw [List.sublist_append_iff]
  constructor
  · rintro ⟨front, back, rfl, hfront, hback⟩
    rcases List.sublist_singleton.1 hback with rfl | rfl
    · exact .inl (by simpa using hfront)
    · exact .inr ⟨front, rfl, hfront⟩
  · rintro (h | ⟨front, rfl, hfront⟩)
    · exact ⟨s, [], by simp, h, List.nil_sublist _⟩
    · exact ⟨front, [c], rfl, hfront, List.Sublist.refl _⟩

lemma longest_nil_left (b : Text) : Longest [] b 0 := by
  refine ⟨⟨[], by simp, by simp, rfl⟩, ?_⟩
  rintro _ ⟨s, hs, -, rfl⟩
  simpa using hs.length_le

lemma Longest.symm (h : Longest a b n) : Longest b a n := by
  obtain ⟨⟨s, hsa, hsb, hlength⟩, hgreatest⟩ := h
  refine ⟨⟨s, hsb, hsa, hlength⟩, ?_⟩
  rintro _ ⟨t, htb, hta, rfl⟩
  exact hgreatest ⟨t, hta, htb, rfl⟩

lemma longest_nil_right (a : Text) : Longest a [] 0 := (longest_nil_left a).symm

lemma Longest.concat (h : Longest a b n) (c : Char) : Longest (a ++ [c]) (b ++ [c]) (n + 1) := by
  obtain ⟨⟨s, hsa, hsb, rfl⟩, hgreatest⟩ := h
  refine ⟨⟨s ++ [c], hsa.append_right _, hsb.append_right _, by simp⟩, ?_⟩
  rintro _ ⟨t, hta, htb, rfl⟩
  -- Without the last character, the subsequence is one of the texts without theirs.
  obtain ⟨front, hfa, hfb, hlength⟩ :
      ∃ front : Text, front.Sublist a ∧ front.Sublist b ∧ t.length ≤ front.length + 1 := by
    rcases sublist_concat_iff.1 hta with hta | ⟨front, rfl, hfa⟩
    · rcases sublist_concat_iff.1 htb with htb | ⟨front, rfl, hfb⟩
      · exact ⟨t, hta, htb, Nat.le_succ _⟩
      · exact ⟨front, (List.sublist_append_left _ _).trans hta, hfb, by simp⟩
    · rcases sublist_concat_iff.1 htb with htb | ⟨other, hother, hfb⟩
      · exact ⟨front, hfa, (List.sublist_append_left _ _).trans htb, by simp⟩
      · obtain rfl : front = other := List.append_inj_left' hother rfl
        exact ⟨front, hfa, hfb, by simp⟩
  exact hlength.trans (Nat.succ_le_succ (hgreatest ⟨front, hfa, hfb, rfl⟩))

lemma Longest.concat_ne (hne : c ≠ d) (hm : Longest (a ++ [c]) b m)
    (hn : Longest a (b ++ [d]) n) : Longest (a ++ [c]) (b ++ [d]) (max m n) := by
  obtain ⟨⟨s, hsa, hsb, hs⟩, hgreatest⟩ := hm
  obtain ⟨⟨t, hta, htb, ht⟩, hgreatest'⟩ := hn
  constructor
  · rcases Nat.le_total m n with hle | hle
    · exact ⟨t, hta.trans (List.sublist_append_left _ _), htb, by omega⟩
    · exact ⟨s, hsa, hsb.trans (List.sublist_append_left _ _), by omega⟩
  · rintro _ ⟨u, hua, hub, rfl⟩
    rcases sublist_concat_iff.1 hub with hub | ⟨front, rfl, -⟩
    · exact le_max_of_le_left (hgreatest ⟨u, hua, hub, rfl⟩)
    · rcases sublist_concat_iff.1 hua with hua | ⟨other, hother, -⟩
      · exact le_max_of_le_right (hgreatest' ⟨_, hua, hub, rfl⟩)
      · have hlast := List.append_inj_right' hother rfl
        exact absurd (by simpa using hlast.symm) hne

/-! ### Rows -/

/-- A row has a column for each beginning of `b`, and up to some column it holds the lengths for
`a` and these beginnings. -/
structure RowUpto (a b : Text) (columns : ℕ) (row : Array ℕ) : Prop where
  size : row.size = b.length + 1
  longest : ∀ j ≤ columns, Longest a (b.take j) (row.getD j 0)

/-- The row of `a` is finished, and the next one is filled up to a column. -/
structure Filling (a b : Text) (c : Char) (columns : ℕ) (rows : Rows) : Prop where
  previous : RowUpto a b b.length rows.previous
  current : RowUpto (a ++ [c]) b columns rows.current

/-- The row of `a` is finished. The other one may hold anything, but no length for the empty
beginning. -/
structure Finished (a b : Text) (rows : Rows) : Prop where
  previous : RowUpto a b b.length rows.previous
  size : rows.current.size = b.length + 1
  left : rows.current.getD 0 0 = 0

lemma getD_setIfInBounds {row : Array ℕ} {i : ℕ} (h : i < row.size) (value j : ℕ) :
    (row.setIfInBounds i value).getD j 0 = if i = j then value else row.getD j 0 := by
  rw [Array.getD_eq_getD_getElem?, Array.getElem?_setIfInBounds, Array.getD_eq_getD_getElem?]
  split_ifs <;> rfl

lemma RowUpto.left {row : Array ℕ} {columns : ℕ} (h : RowUpto a b columns row) :
    row.getD 0 0 = 0 := by
  have hleft := h.longest 0 (Nat.zero_le _)
  rw [List.take_zero] at hleft
  exact hleft.unique (longest_nil_right a)

lemma Filling.fill {done rest : Text} {rows : Rows} (hb : b = done ++ d :: rest)
    (h : Filling a b c done.length rows) :
    Filling a b c (done.length + 1) (rows.fill c (d, done.length)) := by
  have hdone : b.take done.length = done := by rw [hb, List.take_left]
  have hnext : b.take (done.length + 1) = done ++ [d] := by
    rw [hb, List.take_length_add_append]
    rfl
  have hlength : done.length + 1 ≤ b.length := by simp [hb]
  have hdiagonal := h.previous.longest done.length (by omega)
  have habove := h.previous.longest (done.length + 1) hlength
  have hleft := h.current.longest done.length le_rfl
  rw [hdone] at hdiagonal hleft
  rw [hnext] at habove
  have hsize := h.current.size
  refine ⟨h.previous, ?_, fun j hj => ?_⟩
  · rw [Rows.fill, Array.size_setIfInBounds, hsize]
  · rw [Rows.fill, getD_setIfInBounds (by omega)]
    split_ifs with hcolumn hsame
    · subst hcolumn hsame
      rw [hnext]
      exact hdiagonal.concat c
    · subst hcolumn
      rw [hnext]
      exact Longest.concat_ne hsame hleft habove
    · exact h.current.longest j (by omega)

lemma Filling.fills {done rest : Text} {rows : Rows} (hb : b = done ++ rest)
    (h : Filling a b c done.length rows) :
    Filling a b c b.length ((rest.zipIdx done.length).foldl (Rows.fill c) rows) := by
  induction rest generalizing done rows with
  | nil =>
    obtain rfl : b = done := by simpa using hb
    exact h
  | cons d rest ih =>
    rw [List.zipIdx_cons, List.foldl_cons]
    have hfilled := h.fill hb
    have hdone : done.length + 1 = (done ++ [d]).length := by simp
    rw [hdone] at hfilled ⊢
    exact ih (by simpa using hb) hfilled

lemma Finished.finish {rows : Rows} (h : Finished a b rows) (c : Char) :
    Finished (a ++ [c]) b (rows.finish b c) := by
  have hbegun : Filling a b c ([] : Text).length rows := by
    refine ⟨h.previous, h.size, fun j hj => ?_⟩
    obtain rfl : j = 0 := Nat.le_zero.1 hj
    rw [h.left, List.take_zero]
    exact longest_nil_right _
  have hfilled := hbegun.fills (List.nil_append b).symm
  exact ⟨hfilled.current, hfilled.previous.size, hfilled.previous.left⟩

lemma finished_table (a b : Text) : Finished a b (table a b) := by
  induction a using List.reverseRecOn with
  | nil =>
    have hzero : ∀ j, (Array.replicate (b.length + 1) 0).getD j 0 = 0 := by
      intro j
      rw [Array.getD_eq_getD_getElem?, Array.getElem?_replicate]
      split_ifs <;> rfl
    refine ⟨⟨Array.size_replicate, fun j _ => ?_⟩, Array.size_replicate, hzero 0⟩
    rw [table, List.foldl_nil, Rows.zero, hzero]
    exact longest_nil_left _
  | append_singleton a c ih =>
    rw [table, List.foldl_append]
    exact ih.finish c

/-- **The table leads to the length of a longest common subsequence.** -/
lemma longest_common (a b : Text) : Longest a b (common a b) := by
  have hlast := (finished_table a b).previous.longest b.length le_rfl
  rwa [List.take_length] at hlast

/-! ### Ratios -/

lemma common_comm (a b : Text) : common a b = common b a :=
  (longest_common a b).unique (longest_common b a).symm

lemma common_le_left (a b : Text) : common a b ≤ a.length := by
  obtain ⟨s, hs, -, hlength⟩ := (longest_common a b).1
  exact hlength ▸ hs.length_le

lemma common_self (a : Text) : common a a = a.length :=
  (common_le_left a a).antisymm
    ((longest_common a a).2 ⟨a, List.Sublist.refl a, List.Sublist.refl a, rfl⟩)

lemma eq_of_common_eq (ha : common a b = a.length) (hb : common a b = b.length) : a = b := by
  obtain ⟨s, hsa, hsb, hlength⟩ := (longest_common a b).1
  rw [← hsa.eq_of_length (hlength.trans ha), ← hsb.eq_of_length (hlength.trans hb)]

lemma ratio_comm (round : Rounding) (a b : Text) : ratio round a b = ratio round b a := by
  rw [ratio, ratio, common_comm, Nat.add_comm]

lemma ratio_exact (h : 0 < a.length + b.length) :
    ratio id a b = (2 * common a b : ℕ) / (a.length + b.length : ℕ) ∧
      2 * common a b ≤ a.length + b.length := by
  have ha := common_le_left a b
  have hb := common_le_left b a
  rw [common_comm b a] at hb
  exact ⟨if_neg h.ne', by omega⟩

lemma ratio_eq_one_iff : ratio id a b = 1 ↔ a = b := by
  rcases Nat.eq_zero_or_pos (a.length + b.length) with hzero | hpos
  · obtain ⟨ha, hb⟩ := Nat.add_eq_zero_iff.1 hzero
    rw [List.length_eq_zero_iff.1 ha, List.length_eq_zero_iff.1 hb]
    exact iff_of_true rfl rfl
  · have hpos' : ((a.length + b.length : ℕ) : ℚ) ≠ 0 := Nat.cast_ne_zero.2 hpos.ne'
    rw [(ratio_exact hpos).1, div_eq_one_iff_eq hpos', Nat.cast_inj]
    constructor
    · intro h
      have ha := common_le_left a b
      have hb := common_le_left b a
      rw [common_comm b a] at hb
      exact eq_of_common_eq (by omega) (by omega)
    · rintro rfl
      rw [common_self]
      omega

/-- **The table computes a longest common subsequence.** So the exact ratio is the same both
ways, between zero and one, and one for a text and itself alone. -/
theorem isGreatest_common (a b : Text) :
    IsGreatest {n | ∃ s : Text, s.Sublist a ∧ s.Sublist b ∧ s.length = n} (common a b) ∧
      ratio id a b = ratio id b a ∧ 0 ≤ ratio id a b ∧ ratio id a b ≤ 1 ∧
      (ratio id a b = 1 ↔ a = b) := by
  have hbounds : 0 ≤ ratio id a b ∧ ratio id a b ≤ 1 := by
    rcases Nat.eq_zero_or_pos (a.length + b.length) with hzero | hpos
    · have hone : ratio id a b = 1 := if_pos hzero
      rw [hone]
      exact ⟨zero_le_one, le_rfl⟩
    · obtain ⟨hratio, hle⟩ := ratio_exact hpos
      rw [hratio]
      exact ⟨by positivity, div_le_one_of_le₀ (Nat.cast_le.2 hle) (Nat.cast_nonneg _)⟩
  exact ⟨longest_common a b, ratio_comm id a b, hbounds.1, hbounds.2, ratio_eq_one_iff⟩

example : ratio id "ABCD".toList "ABXY".toList = 1 / 2 := by decide +kernel

end LatexReview.Bibliography
