import Mathlib
import LatexReview.Problem.Draft
import LatexReview.Proofs.Position
import LatexReview.Proofs.ProblemSet.Latest
import LatexReview.Proofs.Text.Order

/-!
The order in which problems are shown.

The comparison is consistent, and alike in it are problems of one uid only. So problems with
different uids have one order for display, in whatever order they come, and a set of problems
is shown in one way, in whatever order it is gone through.
-/

namespace LatexReview

namespace Problem

variable {p q : Problem} {ps qs : List Problem}

/-! ### The comparison -/

instance : Std.TransCmp comparePlaces :=
  letI : Ord Position := ⟨Position.compare⟩
  haveI : Std.TransOrd Position := inferInstanceAs (Std.TransCmp Position.compare)
  inferInstanceAs (Std.TransCmp (compare : Option Position → Option Position → Ordering))

lemma transCmp_on {α β : Type} {cmp : β → β → Ordering} [Std.TransCmp cmp] (part : α → β) :
    Std.TransCmp fun a b => cmp (part a) (part b) where
  eq_swap := Std.OrientedCmp.eq_swap
  isLE_trans := Std.TransCmp.isLE_trans

instance : Std.TransCmp displayCompare :=
  have : Std.TransCmp fun p q : Problem => compare p.displayRank q.displayRank :=
    transCmp_on displayRank
  have : Std.TransCmp fun p q : Problem => comparePlaces p.position q.position :=
    transCmp_on Problem.position
  have : Std.TransCmp fun p q : Problem => p.checker.compare q.checker :=
    transCmp_on Problem.checker
  have : Std.TransCmp fun p q : Problem => p.key.compare q.key := transCmp_on Problem.key
  have : Std.TransCmp fun p q : Problem => p.uid.compare q.uid := transCmp_on uid
  inferInstanceAs (Std.TransCmp (compareLex
    (fun p q : Problem => compare p.displayRank q.displayRank) (compareLex
    (fun p q : Problem => comparePlaces p.position q.position) (compareLex
    (fun p q : Problem => p.checker.compare q.checker) (compareLex
    (fun p q : Problem => p.key.compare q.key)
    (fun p q : Problem => p.uid.compare q.uid))))))

lemma uid_eq_of_displayLe (hpq : p.displayLe q) (hqp : q.displayLe p) : p.uid = q.uid := by
  have heq : p.displayCompare q = .eq := Std.OrientedCmp.isLE_antisymm hpq hqp
  simp only [displayCompare, Ordering.then_eq_eq] at heq
  exact Text.eq_of_compare heq.2.2.2.2

lemma displayRank_of_displayLe (h : p.displayLe q) : p.displayRank < q.displayRank ∨
    p.displayRank = q.displayRank ∧ (comparePlaces p.position q.position).isLE := by
  rw [displayLe, displayCompare] at h
  rcases lt_trichotomy p.displayRank q.displayRank with hlt | heq | hgt
  · exact .inl hlt
  · rw [Nat.compare_eq_eq.2 heq, Ordering.eq_then] at h
    exact .inr ⟨heq, Ordering.isLE_left_of_isLE_then h⟩
  · simp [Nat.compare_eq_gt.2 hgt] at h

/-! ### Sorting -/

lemma perm_sortForDisplay (ps : List Problem) : (sortForDisplay ps).Perm ps :=
  List.mergeSort_perm ps displayLe

lemma pairwise_sortForDisplay (ps : List Problem) :
    (sortForDisplay ps).Pairwise fun p q => p.displayLe q := by
  refine List.pairwise_mergeSort (fun p q r => Std.TransCmp.isLE_trans) (fun p q => ?_) ps
  have hswap : q.displayCompare p = (p.displayCompare q).swap := Std.OrientedCmp.eq_swap
  rw [displayLe, displayLe, hswap]
  cases p.displayCompare q <;> rfl

/-- **Problems of different uids have one order for display.** -/
lemma sortForDisplay_eq_of_perm (huids : (ps.map uid).Nodup) (h : qs.Perm ps) :
    sortForDisplay qs = sortForDisplay ps := by
  have hsame : (sortForDisplay qs).Perm (sortForDisplay ps) :=
    (perm_sortForDisplay qs).trans (h.trans (perm_sortForDisplay ps).symm)
  refine List.Perm.eq_of_pairwise (fun p q hp hq hpq hqp => ?_) (pairwise_sortForDisplay qs)
    (pairwise_sortForDisplay ps) hsame
  have hp' : p ∈ ps := h.mem_iff.1 ((perm_sortForDisplay qs).mem_iff.1 hp)
  have hq' : q ∈ ps := (perm_sortForDisplay ps).mem_iff.1 hq
  exact List.inj_on_of_nodup_map huids hp' hq' (uid_eq_of_displayLe hpq hqp)

/-! ### The layout of a display -/

/-- Structural errors come first, then other problems without a position, then those with one,
from the top of the document to its end. -/
def LaidOut (ps : List Problem) : Prop :=
  ∃ errors general placed, ps = errors ++ (general ++ placed) ∧
    (∀ p ∈ errors, p.category = some parseCategory) ∧
    (∀ p ∈ general, p.category ≠ some parseCategory ∧ p.position = none) ∧
    (∀ p ∈ placed, p.category ≠ some parseCategory ∧ p.position ≠ none) ∧
    placed.Pairwise fun p q => ∀ here ∈ p.position, ∀ there ∈ q.position,
      here.line < there.line ∨ here.line = there.line ∧ here.column ≤ there.column

lemma exists_cut (h : ps.Pairwise fun p q => p.displayRank ≤ q.displayRank) (rank : ℕ) :
    ∃ front back, ps = front ++ back ∧ (∀ p ∈ front, p.displayRank < rank) ∧
      ∀ p ∈ back, rank ≤ p.displayRank := by
  induction ps with
  | nil => exact ⟨[], [], rfl, by simp, by simp⟩
  | cons p ps ih =>
    obtain ⟨hp, hps⟩ := List.pairwise_cons.1 h
    by_cases hlt : p.displayRank < rank
    · obtain ⟨front, back, rfl, hfront, hback⟩ := ih hps
      exact ⟨p :: front, back, rfl, List.forall_mem_cons.2 ⟨hlt, hfront⟩, hback⟩
    · have hle : rank ≤ p.displayRank := Nat.le_of_not_lt hlt
      have hback : ∀ q ∈ ps, rank ≤ q.displayRank := fun q hq => hle.trans (hp q hq)
      exact ⟨[], p :: ps, rfl, by simp, List.forall_mem_cons.2 ⟨hle, hback⟩⟩

lemma displayRank_lt_one_iff : p.displayRank < 1 ↔ p.category = some parseCategory := by
  rw [displayRank, isParseError]
  split_ifs <;> simp_all

lemma displayRank_lt_two_iff :
    p.displayRank < 2 ↔ p.category = some parseCategory ∨ p.position = none := by
  rw [displayRank, isParseError]
  split_ifs <;> simp_all

lemma isLE_comparePlaces {here there : Position}
    (h : (comparePlaces (some here) (some there)).isLE) :
    here.line < there.line ∨ here.line = there.line ∧ here.column ≤ there.column := by
  have hle := Position.le_iff.1 h
  simpa only [UInt32.lt_iff_toNat_lt, UInt32.le_iff_toNat_le, UInt32.toNat_inj] using hle

lemma laidOut_sortForDisplay (ps : List Problem) : LaidOut (sortForDisplay ps) := by
  have hsorted := pairwise_sortForDisplay ps
  have hranks : (sortForDisplay ps).Pairwise fun p q => p.displayRank ≤ q.displayRank :=
    hsorted.imp fun h => (displayRank_of_displayLe h).elim le_of_lt fun h => h.1.le
  obtain ⟨errors, others, hcut, herrors, hothers⟩ := exists_cut hranks 1
  rw [hcut] at hranks hsorted
  obtain ⟨general, placed, rfl, hgeneral, hplaced⟩ :=
    exists_cut (List.pairwise_append.1 hranks).2.1 2
  refine ⟨errors, general, placed, hcut, fun p hp => displayRank_lt_one_iff.1 (herrors p hp),
    fun p hp => ?_, fun p hp => ?_, ?_⟩
  · have hcategory : p.category ≠ some parseCategory := fun h =>
      (hothers p (by simp [hp])).not_gt (displayRank_lt_one_iff.2 h)
    exact ⟨hcategory, (displayRank_lt_two_iff.1 (hgeneral p hp)).resolve_left hcategory⟩
  · have hneither : ¬ (p.category = some parseCategory ∨ p.position = none) := fun h =>
      (hplaced p hp).not_gt (displayRank_lt_two_iff.2 h)
    exact not_or.1 hneither
  · have hpairs := (List.pairwise_append.1 (List.pairwise_append.1 hsorted).2.1).2.1
    refine hpairs.imp_of_mem fun {p q} hp hq h here hhere there hthere => ?_
    -- Both are of the last rank.
    have hrank : ∀ p : Problem, p.displayRank ≤ 2 := by
      intro p
      rw [displayRank]
      split_ifs <;> simp
    have hp2 := hplaced p hp
    have hq2 := hrank q
    obtain ⟨-, hplaces⟩ := (displayRank_of_displayLe h).resolve_left (by omega)
    rw [Option.mem_def.1 hhere, Option.mem_def.1 hthere] at hplaces
    exact isLE_comparePlaces hplaces

end Problem

/-! ### Sets -/

namespace ProblemSet

/-- A set as it comes about: problems are put in, and what is whitelisted is dropped. -/
inductive Arises : ProblemSet → Prop where
  | empty : Arises .empty
  | insert {s : ProblemSet} (h : Arises s) (p : Problem) : Arises (s.insert p)
  | withoutWhitelisted {s : ProblemSet} (h : Arises s) (w : Whitelist) :
    Arises (s.withoutWhitelisted w)

lemma Arises.extend {s : ProblemSet} (h : s.Arises) (ps : List Problem) : (s.extend ps).Arises := by
  induction ps generalizing s with
  | nil => exact h
  | cons p ps ih => exact ih (h.insert p)

lemma Arises.keyed {s : ProblemSet} (h : s.Arises) : s.Keyed := by
  induction h with
  | empty => exact List.nodup_nil
  | insert _ p ih => exact ih.insert p
  | withoutWhitelisted _ w ih => exact ih.withoutWhitelisted w

end ProblemSet

namespace Problem

/-- **Problems have one display**, if their uids are different: structural errors first, then
what has no position, then the rest by position. A set is displayed in one way, in whatever
order it is gone through. -/
theorem display_unique :
    (∀ ps : List Problem, (ps.map uid).Nodup →
      (∀ qs, qs.Perm ps → sortForDisplay qs = sortForDisplay ps) ∧
        (sortForDisplay ps).Perm ps ∧ LaidOut (sortForDisplay ps)) ∧
      ∀ s : ProblemSet, s.Arises → ∀ order, order.Perm s.problems →
        sortForDisplay order = s.sorted := by
  refine ⟨fun ps huids => ⟨fun qs h => ?_, perm_sortForDisplay ps, laidOut_sortForDisplay ps⟩, ?_⟩
  · exact sortForDisplay_eq_of_perm huids h
  · intro s hs order horder
    exact sortForDisplay_eq_of_perm hs.keyed horder

/-- A finding with a position and one without, a structural error further down, and two
findings at one place that only their lengths tell apart. -/
def mixed : List Problem :=
  [Draft.build { checker := "Aspell".toList, text := "teh".toList, position := some ⟨2, 4⟩ },
    Draft.build { checker := "Bib".toList, text := "dup".toList },
    Draft.build { checker := "Detex".toList, text := ['\x7b'], position := some ⟨50, 1⟩,
                  category := some parseCategory },
    Draft.build { checker := "Aspell".toList, text := "x".toList, position := some ⟨2, 3⟩ },
    Draft.build { checker := "Aspell".toList, text := "x".toList, position := some ⟨2, 3⟩,
                  length := some 2 }]

theorem display_unique_mixed :
    (mixed.map uid).Nodup ∧ (ProblemSet.ofList mixed).Arises ∧
      sortForDisplay mixed.reverse = sortForDisplay mixed ∧ LaidOut (sortForDisplay mixed) ∧
      sortForDisplay (ProblemSet.ofList mixed).problems.reverse =
        (ProblemSet.ofList mixed).sorted := by
  have huids : (mixed.map uid).Nodup := by decide
  have harises : (ProblemSet.ofList mixed).Arises := ProblemSet.Arises.empty.extend mixed
  obtain ⟨hlists, hsets⟩ := display_unique
  obtain ⟨hsame, -, hlaid⟩ := hlists mixed huids
  exact ⟨huids, harises, hsame _ (List.reverse_perm mixed), hlaid,
    hsets _ harises _ (List.reverse_perm _)⟩

end Problem

end LatexReview
