import Mathlib
import LatexReview.Position

/-!
The order of positions: by line, and in one line by column.
-/

namespace LatexReview.Position

variable {p q : Position}

lemma le_iff : p.le q ↔ p.line.toNat < q.line.toNat ∨
    p.line.toNat = q.line.toNat ∧ p.column.toNat ≤ q.column.toNat := by
  rw [le, compare]
  rcases lt_trichotomy p.line.toNat q.line.toNat with hlt | heq | hgt
  · simp [Nat.compare_eq_lt.2 hlt, hlt]
  · simp [heq, Nat.isLE_compare]
  · have hne : ¬ p.line.toNat = q.line.toNat := hgt.ne'
    simp [Nat.compare_eq_gt.2 hgt, hgt.not_gt, hne]

instance : Std.TransCmp compare :=
  inferInstanceAs (Std.TransCmp (compareLex (compareOn fun p : Position => p.line.toNat)
    (compareOn fun p : Position => p.column.toNat)))

lemma le_antisymm (hpq : p.le q) (hqp : q.le p) : p = q := by
  rw [le_iff] at hpq hqp
  have hline : p.line = q.line := UInt32.toNat_inj.1 (by omega)
  have hcolumn : p.column = q.column := UInt32.toNat_inj.1 (by omega)
  cases p
  cases q
  simp_all

lemma compare_eq_lt_iff : p.compare q = .lt ↔ ¬ q.le p := by
  have hswap : q.compare p = (p.compare q).swap := Std.OrientedCmp.eq_swap
  rw [le, hswap]
  cases p.compare q <;> simp

end LatexReview.Position
