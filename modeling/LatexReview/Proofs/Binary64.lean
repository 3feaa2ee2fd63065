import Mathlib
import LatexReview.Binary64

/-!
Rounding to double precision does not pass an integer.

The unit in the last place of a number is that of its first binary digit, less 52 places. So an
integer of at most 53 digits is a multiple of the units of all numbers up to which it comes, and
what is not below it is not rounded to something below it.
-/

namespace LatexReview.Binary64

variable {x : ℚ} {n : ℕ}

lemma powerOfTwo_eq (e : ℤ) : powerOfTwo e = 2 ^ e := by
  rw [powerOfTwo]
  split_ifs with h
  · obtain ⟨k, rfl⟩ := Int.eq_ofNat_of_zero_le h
    simp
  · obtain ⟨k, hk⟩ := Int.eq_ofNat_of_zero_le (by omega : 0 ≤ -e)
    rw [hk, eq_neg_of_add_eq_zero_left (by omega : e + k = 0)]
    simp

lemma floor_le_nearestInt (x : ℚ) : ⌊x⌋ ≤ nearestInt x := by
  have hfloor : x.floor = ⌊x⌋ := rfl
  simp only [nearestInt, hfloor]
  split_ifs <;> omega

lemma le_nearestInt {z : ℤ} (h : (z : ℚ) ≤ x) : z ≤ nearestInt x :=
  (Int.le_floor.2 h).trans (floor_le_nearestInt x)

/-! ### The first binary digit -/

lemma log2_bounds (hx : 0 < x) :
    (2 : ℚ) ^ ((Nat.log2 x.num.toNat : ℤ) - Nat.log2 x.den - 1) ≤ x ∧
      x < 2 ^ ((Nat.log2 x.num.toNat : ℤ) - Nat.log2 x.den + 1) := by
  have hnum : ((x.num.toNat : ℕ) : ℚ) = x * x.den := by
    have hnonneg : ((x.num.toNat : ℕ) : ℤ) = x.num := Int.toNat_of_nonneg (Rat.num_pos.2 hx).le
    rw [Rat.mul_den_eq_num]
    exact_mod_cast hnonneg
  have hne : x.num.toNat ≠ 0 := by
    have := Rat.num_pos.2 hx
    omega
  have hnumLow : (2 : ℚ) ^ Nat.log2 x.num.toNat ≤ x * x.den := by
    rw [← hnum]
    exact_mod_cast Nat.log2_self_le hne
  have hnumHigh : x * x.den < (2 : ℚ) ^ (Nat.log2 x.num.toNat + 1) := by
    rw [← hnum]
    exact_mod_cast Nat.lt_log2_self
  have hdenLow : (2 : ℚ) ^ Nat.log2 x.den ≤ x.den := by
    exact_mod_cast Nat.log2_self_le x.den_nz
  have hdenHigh : (x.den : ℚ) ≤ 2 ^ (Nat.log2 x.den + 1) := by
    exact_mod_cast Nat.lt_log2_self.le
  have hsplit : ∀ i j : ℕ, (2 : ℚ) ^ ((i : ℤ) - j) = 2 ^ i / 2 ^ j := by
    intro i j
    rw [zpow_sub₀ two_ne_zero, zpow_natCast, zpow_natCast]
  constructor
  · have hexponent : (Nat.log2 x.num.toNat : ℤ) - Nat.log2 x.den - 1 =
        (Nat.log2 x.num.toNat : ℤ) - (Nat.log2 x.den + 1 : ℕ) := by
      push_cast
      ring
    rw [hexponent, hsplit, div_le_iff₀ (by positivity)]
    exact hnumLow.trans (mul_le_mul_of_nonneg_left hdenHigh hx.le)
  · have hexponent : (Nat.log2 x.num.toNat : ℤ) - Nat.log2 x.den + 1 =
        (Nat.log2 x.num.toNat + 1 : ℕ) - (Nat.log2 x.den : ℤ) := by
      push_cast
      ring
    rw [hexponent, hsplit, lt_div_iff₀ (by positivity)]
    exact (mul_le_mul_of_nonneg_left hdenLow hx.le).trans_lt hnumHigh

lemma exists_top (hx : 1 ≤ x) :
    ∃ top : ℕ, unitExponent x = top - 52 ∧ (2 : ℚ) ^ top ≤ x ∧ x < 2 ^ (top + 1) := by
  obtain ⟨hlow, hhigh⟩ := log2_bounds (zero_lt_one.trans_le hx)
  obtain ⟨top, hunit, hle, hlt⟩ : ∃ top : ℤ, unitExponent x = max (top - 52) (-1074) ∧
      (2 : ℚ) ^ top ≤ x ∧ x < 2 ^ (top + 1) := by
    refine ⟨_, rfl, ?_, ?_⟩
    · split_ifs with h
      · rwa [powerOfTwo_eq] at h
      · exact hlow
    · split_ifs with h
      · exact hhigh
      · rw [powerOfTwo_eq, not_le] at h
        rwa [sub_add_cancel]
  have hnonneg : 0 ≤ top := by
    by_contra hneg
    have hone : (2 : ℚ) ^ (top + 1) ≤ 1 := zpow_le_one_of_nonpos₀ one_le_two (by omega)
    exact absurd (hlt.trans_le hone) hx.not_gt
  obtain ⟨k, rfl⟩ := Int.eq_ofNat_of_zero_le hnonneg
  refine ⟨k, by omega, by simpa using hle, ?_⟩
  exact_mod_cast hlt

/-! ### Rounding -/

lemma mul_unit_le_round (hx : 0 < x) {z : ℤ} (h : z * (2 : ℚ) ^ unitExponent x ≤ x) :
    z * (2 : ℚ) ^ unitExponent x ≤ round x := by
  have hunit : (0 : ℚ) < 2 ^ unitExponent x := zpow_pos two_pos _
  rw [round, if_neg hx.not_ge, powerOfTwo_eq]
  have hle : (z : ℚ) ≤ x / 2 ^ unitExponent x := (le_div_iff₀ hunit).2 h
  exact mul_le_mul_of_nonneg_right (Int.cast_le.2 (le_nearestInt hle)) hunit.le

lemma round_nonneg (x : ℚ) : 0 ≤ round x := by
  rcases le_or_gt x 0 with hx | hx
  · rw [round, if_pos hx]
  · have hzero := mul_unit_le_round (z := 0) hx (by simpa using hx.le)
    simpa using hzero

/-- **Rounding does not pass an integer** of at most 53 binary digits. -/
theorem natCast_le_round (hn : n ≤ 2 ^ 53) (h : (n : ℚ) ≤ x) : (n : ℚ) ≤ round x := by
  rcases Nat.eq_zero_or_pos n with rfl | hpos
  · simpa using round_nonneg x
  have hx : 1 ≤ x := le_trans (by exact_mod_cast hpos) h
  have hx0 : 0 < x := zero_lt_one.trans_le hx
  obtain ⟨top, hunit, hlow, hhigh⟩ := exists_top hx
  have hshift : ∀ i : ℕ, (2 : ℚ) ^ i * 2 ^ ((top : ℤ) - 52) = 2 ^ ((i : ℤ) + top - 52) := by
    intro i
    rw [← zpow_natCast, ← zpow_add₀ two_ne_zero]
    congr 1
    ring
  by_cases hdigit : n ≤ 2 ^ top
  · -- The first digit alone is not passed.
    have hfirst : ((2 ^ 52 : ℤ) : ℚ) * 2 ^ unitExponent x = 2 ^ top := by
      rw [hunit, Int.cast_pow, Int.cast_ofNat, hshift, ← zpow_natCast]
      congr 1
      push_cast
      ring
    have hround := mul_unit_le_round hx0 (hfirst.trans_le hlow)
    rw [hfirst] at hround
    exact le_trans (by exact_mod_cast hdigit) hround
  · -- The number has its first digit below the 54th, so its unit divides one.
    have htop : top ≤ 52 := by
      have hlt : 2 ^ top < 2 ^ 53 := (not_le.1 hdigit).trans_le hn
      have := (Nat.pow_lt_pow_iff_right one_lt_two).1 hlt
      omega
    have hall : ((n * 2 ^ (52 - top) : ℤ) : ℚ) * 2 ^ unitExponent x = n := by
      have hexponent : ((52 - top : ℕ) : ℤ) + top - 52 = 0 := by omega
      rw [hunit, Int.cast_mul, Int.cast_pow, Int.cast_ofNat, mul_assoc, hshift, hexponent,
        zpow_zero, mul_one, Int.cast_natCast]
    have hround := mul_unit_le_round hx0 (hall.trans_le h)
    rwa [hall] at hround

lemma one_le_round (h : 1 ≤ x) : 1 ≤ round x := by
  rw [← Nat.cast_one] at h ⊢
  exact natCast_le_round (by norm_num) h

end LatexReview.Binary64
