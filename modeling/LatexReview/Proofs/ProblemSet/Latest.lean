import Mathlib
import LatexReview.ProblemSet

/-!
What a set of live problems holds.

Problems are put into a set one after the other, each in the place of one with its uid. In
the end the set holds the last problem under each uid, once, and no other.
-/

namespace LatexReview

namespace Problem

variable {p : Problem} {ps qs : List Problem} {uid : Text}

/-- The last of some problems that has a uid. -/
def latest? (ps : List Problem) (uid : Text) : Option Problem := ps.reverse.find? (·.uid = uid)

@[simp] lemma latest?_nil : latest? [] uid = none := rfl

lemma latest?_append : latest? (ps ++ qs) uid = (latest? qs uid).or (latest? ps uid) := by
  rw [latest?, List.reverse_append, List.find?_append]
  rfl

lemma latest?_concat (ps : List Problem) (p : Problem) (uid : Text) :
    latest? (ps ++ [p]) uid = if p.uid = uid then some p else latest? ps uid := by
  rw [latest?_append]
  by_cases h : p.uid = uid
  · simp [latest?, h]
  · simp [latest?, h]

lemma mem_of_latest? (h : latest? ps uid = some p) : p ∈ ps :=
  List.mem_reverse.1 (List.mem_of_find?_eq_some h)

lemma uid_of_latest? (h : latest? ps uid = some p) : p.uid = uid := by
  simpa using List.find?_some h

lemma latest?_eq_none_iff : latest? ps uid = none ↔ ∀ p ∈ ps, p.uid ≠ uid := by
  simp [latest?]

lemma latest?_eq_some_of_unique (hp : p ∈ ps) (h : ∀ q ∈ ps, q.uid = p.uid → q = p) :
    latest? ps p.uid = some p := by
  cases hl : latest? ps p.uid with
  | none => exact absurd rfl (latest?_eq_none_iff.1 hl p hp)
  | some q => rw [h q (mem_of_latest? hl) (uid_of_latest? hl)]

lemma latest?_eq_some_iff : latest? ps uid = some p ↔ p.uid = uid ∧
    ∃ before after, ps = before ++ p :: after ∧ ∀ q ∈ after, q.uid ≠ uid := by
  constructor
  · intro h
    refine ⟨uid_of_latest? h, ?_⟩
    obtain ⟨-, first, last, hrev, hfirst⟩ := List.find?_eq_some_iff_append.1 h
    refine ⟨last.reverse, first.reverse, ?_, fun q hq => ?_⟩
    · rw [← List.reverse_reverse ps, hrev]
      simp
    · simpa using hfirst q (List.mem_reverse.1 hq)
  · rintro ⟨hp, before, after, rfl, hafter⟩
    have hnone : latest? after uid = none := latest?_eq_none_iff.2 hafter
    have hsplit : before ++ p :: after = (before ++ [p]) ++ after := by simp
    rw [hsplit, latest?_append, hnone, Option.none_or, latest?_concat, if_pos hp]

end Problem

namespace ProblemSet

variable {s : ProblemSet} {p q : Problem} {ps : List Problem} {uid : Text}

/-- No two problems of a set have one uid. -/
def Keyed (s : ProblemSet) : Prop := (s.problems.map (·.uid)).Nodup

lemma Keyed.nodup (h : s.Keyed) : s.problems.Nodup := List.Nodup.of_map _ h

lemma mem_insert_iff : q ∈ (s.insert p).problems ↔
    q = p ∨ q ∈ s.problems ∧ q.uid ≠ p.uid := by
  simp only [insert]
  split
  · rename_i hany
    obtain ⟨r, hr, hru⟩ : ∃ r ∈ s.problems, r.uid = p.uid := by simpa using hany
    simp only [List.mem_map]
    constructor
    · rintro ⟨o, ho, rfl⟩
      split
      · exact Or.inl rfl
      · exact Or.inr ⟨ho, by assumption⟩
    · rintro (rfl | ⟨hq, hne⟩)
      · exact ⟨r, hr, if_pos hru⟩
      · exact ⟨q, hq, if_neg hne⟩
  · rename_i hany
    have hfresh : ∀ r ∈ s.problems, r.uid ≠ p.uid := by simpa using hany
    rw [List.mem_append, List.mem_singleton, or_comm]
    exact or_congr_right ⟨fun hq => ⟨hq, hfresh q hq⟩, And.left⟩

lemma Keyed.insert (h : s.Keyed) (p : Problem) : (s.insert p).Keyed := by
  simp only [ProblemSet.insert]
  split
  · -- The uids are those that were there.
    have huids : (s.problems.map fun q => if q.uid = p.uid then p else q).map (·.uid) =
        s.problems.map (·.uid) := by
      rw [List.map_map]
      refine List.map_congr_left fun q _ => ?_
      by_cases hq : q.uid = p.uid
      · simp [hq]
      · simp [hq]
    rw [Keyed, huids]
    exact h
  · rename_i hany
    have hfresh : ∀ r ∈ s.problems, r.uid ≠ p.uid := by simpa using hany
    rw [Keyed, List.map_append, List.map_singleton, List.nodup_append]
    refine ⟨h, List.nodup_singleton _, ?_⟩
    intro uid hu other ho
    obtain ⟨r, hr, rfl⟩ := List.mem_map.1 hu
    obtain rfl : other = p.uid := by simpa using ho
    exact hfresh r hr

/-- **A set is what came last**: it holds the last problem under each uid, and no other. -/
theorem mem_ofList_iff : p ∈ (ofList ps).problems ↔ Problem.latest? ps p.uid = some p := by
  induction ps using List.reverseRecOn with
  | nil => simp [ofList, extend, empty]
  | append_singleton ps q ih =>
    have hlast : ofList (ps ++ [q]) = (ofList ps).insert q := by simp [ofList, extend]
    rw [hlast, mem_insert_iff, ih, Problem.latest?_concat]
    by_cases hu : q.uid = p.uid
    · simp [hu, eq_comm]
    · have hne : p ≠ q := by
        rintro rfl
        exact hu rfl
      simp [hu, hne, Ne.symm hu]

lemma mem_ofList (h : p ∈ (ofList ps).problems) : p ∈ ps :=
  Problem.mem_of_latest? (mem_ofList_iff.1 h)

lemma keyed_ofList (ps : List Problem) : (ofList ps).Keyed := by
  induction ps using List.reverseRecOn with
  | nil => exact List.nodup_nil
  | append_singleton ps q ih =>
    have hlast : ofList (ps ++ [q]) = (ofList ps).insert q := by simp [ofList, extend]
    rw [hlast]
    exact ih.insert q

lemma mem_withoutWhitelisted {w : Whitelist} :
    p ∈ (s.withoutWhitelisted w).problems ↔ p ∈ s.problems ∧ p.key ∉ w.keys := by
  simp [withoutWhitelisted, Whitelist.filter, Whitelist.contains]

lemma Keyed.withoutWhitelisted (h : s.Keyed) (w : Whitelist) : (s.withoutWhitelisted w).Keyed :=
  h.sublist (List.filter_sublist.map _)

end ProblemSet

end LatexReview
