import Mathlib
import LatexReview.Text.Basic

/-!
The order of texts.

It is the order of lists by their first difference. Comparing texts so is consistent, and no
two texts are alike in it.
-/

namespace LatexReview.Text

variable {s t : Text}

lemma compare_eq (s t : Text) :
    s.compare t = if s < t then .lt else if t < s then .gt else .eq := by
  induction s generalizing t with
  | nil =>
    cases t with
    | nil => rfl
    | cons d t => simp [compare]
  | cons c s ih =>
    cases t with
    | nil => simp [compare]
    | cons d t =>
      rw [compare, ih]
      rcases lt_trichotomy c d with h | rfl | h
      · simp [h, h.ne, List.cons_lt_cons_iff]
      · simp
      · simp [h, h.not_gt, h.ne, h.ne', List.cons_lt_cons_iff]

lemma eq_of_compare (h : s.compare t = .eq) : s = t := by
  rcases lt_trichotomy s t with hlt | heq | hgt
  · simp [compare_eq, hlt] at h
  · exact heq
  · simp [compare_eq, hgt, hgt.not_gt] at h

lemma isLE_compare_iff : (s.compare t).isLE ↔ s ≤ t := by
  rw [compare_eq, ← not_lt]
  split_ifs with hlt hgt
  · simp [hlt.not_gt]
  · simp [hgt]
  · simp [hgt]

instance : Std.OrientedCmp compare where
  eq_swap {s t} := by
    rw [compare_eq s t, compare_eq t s]
    rcases lt_trichotomy s t with h | rfl | h
    · simp [h, h.not_gt]
    · simp
    · simp [h, h.not_gt]

instance : Std.TransCmp compare where
  isLE_trans hst htu := isLE_compare_iff.2 ((isLE_compare_iff.1 hst).trans (isLE_compare_iff.1 htu))

end LatexReview.Text
