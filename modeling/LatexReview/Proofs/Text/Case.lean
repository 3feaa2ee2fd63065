import Mathlib
import LatexReview.Text.Basic
import LatexReview.Text.Case

/-!
Lower case in the basic alphabet.

Among the first characters the letters A to Z alone change, each to one letter. So the lower
case of all scripts is that of the basic alphabet there, and upper case does not tell a letter
of it from the small one.
-/

namespace LatexReview.Text

variable {s : Text} {c : Char}

/-- One of the first 128 characters. -/
def isBasic (c : Char) : Bool := c.toNat < 128

lemma of_isBasic {P : Char → Prop} (hall : ∀ n < 128, P (Char.ofNat n)) (h : isBasic c = true) :
    P c := by
  have hc : c.toNat < 128 := by simpa [isBasic] using h
  exact Char.ofNat_toNat c ▸ hall c.toNat hc

lemma lowerChar_eq_lowerLetter (h : isBasic c = true) : Case.lowerChar c = [lowerLetter c] :=
  of_isBasic (P := fun c => Case.lowerChar c = [lowerLetter c]) (by decide +kernel) h

lemma lowerAfter_eq_lowerLetters (h : ∀ c ∈ s, isBasic c = true) (before : Text) :
    Case.lowerAfter before s = s.lowerLetters := by
  induction s generalizing before with
  | nil => rfl
  | cons c s ih =>
    have hsigma : c ≠ 'Σ' := by
      rintro rfl
      exact absurd (h 'Σ' (by simp)) (by decide)
    rw [Case.lowerAfter, if_neg hsigma, lowerChar_eq_lowerLetter (h c (by simp)),
      ih fun d hd => h d (by simp [hd])]
    rfl

lemma lower_eq_lowerLetters (h : ∀ c ∈ s, isBasic c = true) : s.lower = s.lowerLetters :=
  lowerAfter_eq_lowerLetters h []

/-! ### Small letters -/

lemma lowerLetter_cases (c : Char) : lowerLetter c = c ∨ ∃ n < 26, c = Char.ofNat (65 + n) := by
  rw [lowerLetter]
  split_ifs with h
  · obtain ⟨hlow, hhigh⟩ : 65 ≤ c.toNat ∧ c.toNat ≤ 90 := by
      simpa [Char.le_def, UInt32.le_iff_toNat_le] using h
    refine .inr ⟨c.toNat - 65, by omega, ?_⟩
    rw [Nat.add_sub_cancel' hlow, Char.ofNat_toNat]
  · exact .inl rfl

lemma lowerLetter_congr {α : Type*} (f : Char → α)
    (hall : ∀ n < 26, f (lowerLetter (Char.ofNat (65 + n))) = f (Char.ofNat (65 + n)))
    (c : Char) : f (lowerLetter c) = f c := by
  rcases lowerLetter_cases c with h | ⟨n, hn, rfl⟩
  · rw [h]
  · exact hall n hn

lemma isSpace_lowerLetter (c : Char) : isSpace (lowerLetter c) = isSpace c :=
  lowerLetter_congr isSpace (by decide +kernel) c

lemma upperChar_lowerLetter (c : Char) : Case.upperChar (lowerLetter c) = Case.upperChar c :=
  lowerLetter_congr Case.upperChar (by decide +kernel) c

lemma upper_lowerLetters (s : Text) : s.lowerLetters.upper = s.upper := by
  rw [upper, upper, lowerLetters, List.flatMap_map]
  exact List.flatMap_congr fun c _ => upperChar_lowerLetter c

/-! ### Letters and digits -/

def isLetterOrDigit (c : Char) : Bool := isLetter c || isDigit c

lemma toNat_of_isLetterOrDigit (h : isLetterOrDigit c = true) :
    (48 ≤ c.toNat ∧ c.toNat ≤ 57) ∨ (65 ≤ c.toNat ∧ c.toNat ≤ 90) ∨
      (97 ≤ c.toNat ∧ c.toNat ≤ 122) := by
  simp only [isLetterOrDigit, isLetter, isDigit, Bool.or_eq_true, Bool.and_eq_true,
    decide_eq_true_eq, Char.le_def, UInt32.le_iff_toNat_le] at h
  change (97 ≤ c.toNat ∧ c.toNat ≤ 122 ∨ 65 ≤ c.toNat ∧ c.toNat ≤ 90) ∨
    48 ≤ c.toNat ∧ c.toNat ≤ 57 at h
  omega

lemma isBasic_of_isLetterOrDigit (h : isLetterOrDigit c = true) : isBasic c = true := by
  have := toNat_of_isLetterOrDigit h
  simp only [isBasic, decide_eq_true_eq]
  omega

lemma isSpace_of_isLetterOrDigit (h : isLetterOrDigit c = true) : isSpace c = false := by
  have := toNat_of_isLetterOrDigit h
  simp [isSpace]
  omega

lemma isLetterOrDigit_lowerLetter (h : isLetterOrDigit c = true) :
    isLetterOrDigit (lowerLetter c) = true := by
  have hstays : isLetterOrDigit c = true → isLetterOrDigit (lowerLetter c) = true :=
    of_isBasic (P := fun c => isLetterOrDigit c = true → isLetterOrDigit (lowerLetter c) = true)
      (by decide +kernel) (isBasic_of_isLetterOrDigit h)
  exact hstays h

end LatexReview.Text
