import Mathlib
import LatexReview.Aggregate
import LatexReview.Proofs.Problem.Uid
import LatexReview.Proofs.ProblemSet.Latest

/-!
What a check with several checkers returns.

As long as no two checkers report under one uid, the live problems are found checker by
checker: the last under each uid that is neither suppressed nor whitelisted. So the order of
the checkers does not matter, and a checker that fails might as well not be there.
-/

namespace LatexReview

open Problem

variable {a : Aggregate} {c : Config} {env : Environment} {d : Document} {w : Whitelist}
  {p : Problem} {uid : Text}

namespace Problem

lemma latest?_flatMap_of_only {α : Type} {f : α → List Problem} {x : α} {xs : List α}
    (hx : x ∈ xs) (h : ∀ y ∈ xs, y = x ∨ ∀ p ∈ f y, p.uid ≠ uid) :
    latest? (xs.flatMap f) uid = latest? (f x) uid := by
  induction xs with
  | nil => simp at hx
  | cons y xs ih =>
    obtain ⟨hy, hxs⟩ := List.forall_mem_cons.1 h
    rw [List.flatMap_cons, latest?_append]
    by_cases hrest : x ∈ xs
    · rw [ih hrest hxs]
      rcases hy with rfl | hy
      · exact Option.or_self
      · rw [latest?_eq_none_iff.2 hy, Option.or_none]
    · -- Then the list comes first, and no other one has the uid.
      obtain rfl : x = y := (List.mem_cons.1 hx).resolve_right hrest
      have hnone : latest? (xs.flatMap f) uid = none := by
        refine latest?_eq_none_iff.2 fun p hp => ?_
        obtain ⟨z, hz, hp⟩ := List.mem_flatMap.1 hp
        have hne : z ≠ x := by
          rintro rfl
          exact hrest hz
        exact (hxs z hz).resolve_left hne p hp
      rw [hnone, Option.none_or]

lemma latest?_flatMap {α : Type} {f : α → List Problem} {xs : List α}
    (h : xs.Pairwise fun x y => ∀ p ∈ f x, ∀ q ∈ f y, p.uid ≠ q.uid) :
    latest? (xs.flatMap f) uid = some p ↔ ∃ x ∈ xs, latest? (f x) uid = some p := by
  have honly : ∀ x ∈ xs, p ∈ f x → p.uid = uid →
      latest? (xs.flatMap f) uid = latest? (f x) uid := by
    intro x hx hp hu
    refine latest?_flatMap_of_only hx fun y hy => (eq_or_ne y x).imp_right fun hne q hq hqu => ?_
    have hsymm : Std.Symm fun x y => ∀ p ∈ f x, ∀ q ∈ f y, p.uid ≠ q.uid :=
      ⟨fun _ _ hxy q hq p hp => (hxy p hp q hq).symm⟩
    exact h.forall hy hx hne q hq p hp (hqu.trans hu.symm)
  constructor
  · intro hlatest
    obtain ⟨x, hx, hp⟩ := List.mem_flatMap.1 (mem_of_latest? hlatest)
    exact ⟨x, hx, honly x hx hp (uid_of_latest? hlatest) ▸ hlatest⟩
  · rintro ⟨x, hx, hlatest⟩
    rw [honly x hx (mem_of_latest? hlatest) (uid_of_latest? hlatest)]
    exact hlatest

end Problem

namespace Checker

/-- What a checker finds in a document. One that fails finds nothing. -/
def findings (checker : Checker) (c : Config) (env : Environment) (d : Document) : List Problem :=
  (checker.run c env d).outcome.problems

/-- What a checker finds and the document does not suppress. -/
def reports (checker : Checker) (c : Config) (env : Environment) (d : Document) : List Problem :=
  (Suppression.Record.ofSource d.source).1.apply (checker.findings c env d)

/-- A checker neither fails nor crashes. -/
def succeeds (checker : Checker) (c : Config) (env : Environment) (d : Document) : Bool :=
  match (checker.run c env d).outcome with
  | .found _ => true
  | .failed _ | .crashed => false

lemma mem_reports {checker : Checker} : p ∈ checker.reports c env d ↔
    p ∈ checker.findings c env d ∧
      (Suppression.Record.ofSource d.source).1.suppresses p = false := by
  simp [reports, Suppression.Record.apply]

lemma findings_of_not_succeeds {checker : Checker} (h : checker.succeeds c env d = false) :
    checker.findings c env d = [] := by
  rw [findings]
  rw [succeeds] at h
  cases ho : (checker.run c env d).outcome with
  | found problems => simp [ho] at h
  | failed failure => rfl
  | crashed => rfl

/-- A checker puts its name on what it finds, and leaves the separator of uids alone. -/
def Signs (checker : Checker) (c : Config) (env : Environment) (d : Document) : Prop :=
  ∀ p ∈ checker.findings c env d, p.checker = checker.name ∧ p.Separable

end Checker

namespace Aggregate

/-- No two checkers report under one uid. -/
def Apart (a : Aggregate) (c : Config) (env : Environment) (d : Document) : Prop :=
  a.checkers.Pairwise fun x y =>
    ∀ p ∈ x.reports c env d, ∀ q ∈ y.reports c env d, p.uid ≠ q.uid

lemma found_eq (a : Aggregate) (c : Config) (env : Environment) (d : Document) :
    a.found c env d = a.checkers.flatMap (·.findings c env d) := by
  rw [found, trials, List.flatMap_map]
  rfl

lemma check_eq (a : Aggregate) (c : Config) (env : Environment) (d : Document) (w : Whitelist) :
    a.check c env d w =
      (ProblemSet.ofList (a.checkers.flatMap (·.reports c env d))).withoutWhitelisted w := by
  rw [check, found_eq, Suppression.Record.apply, List.filter_flatMap]
  rfl

lemma keyed_check (a : Aggregate) (c : Config) (env : Environment) (d : Document)
    (w : Whitelist) : (a.check c env d w).Keyed := by
  rw [check_eq]
  exact (ProblemSet.keyed_ofList _).withoutWhitelisted w

/-- **What is live after a check**: the last problem that some checker reports under each uid,
unless its key is whitelisted. -/
lemma mem_check_iff (h : a.Apart c env d) : p ∈ (a.check c env d w).problems ↔
    (∃ checker ∈ a.checkers, latest? (checker.reports c env d) p.uid = some p) ∧
      p.key ∉ w.keys := by
  rw [check_eq, ProblemSet.mem_withoutWhitelisted, ProblemSet.mem_ofList_iff, latest?_flatMap h]

lemma apart_of_signs (hnames : a.names.Nodup)
    (hsigns : ∀ checker ∈ a.checkers, checker.Signs c env d) : a.Apart c env d := by
  have hnames : a.checkers.Pairwise fun x y => x.name ≠ y.name := List.pairwise_map.1 hnames
  refine hnames.imp_of_mem fun {x y} hx hy hne p hp q hq huid => hne ?_
  obtain ⟨hpx, hps⟩ := hsigns x hx p (Checker.mem_reports.1 hp).1
  obtain ⟨hqy, hqs⟩ := hsigns y hy q (Checker.mem_reports.1 hq).1
  calc
    x.name = p.checker := hpx.symm
    _ = q.checker := hps.checker_eq hqs huid
    _ = y.name := hqy

/-- A check without the checkers that fail. -/
def succeeding (a : Aggregate) (c : Config) (env : Environment) (d : Document) : Aggregate :=
  ⟨a.checkers.filter (·.succeeds c env d)⟩

lemma check_succeeding (a : Aggregate) (c : Config) (env : Environment) (d : Document)
    (w : Whitelist) : (a.succeeding c env d).check c env d w = a.check c env d w := by
  have hreports : (a.checkers.filter (·.succeeds c env d)).flatMap (·.reports c env d) =
      a.checkers.flatMap (·.reports c env d) := by
    induction a.checkers with
    | nil => rfl
    | cons checker rest ih =>
      by_cases hs : checker.succeeds c env d
      · rw [List.filter_cons, if_pos hs, List.flatMap_cons, List.flatMap_cons, ih]
      · have hnone := Checker.findings_of_not_succeeds (by simpa using hs)
        rw [List.filter_cons, if_neg hs, List.flatMap_cons, ih, Checker.reports, hnone]
        rfl
  rw [check_eq, check_eq, succeeding, hreports]

/-- **The order of the checkers does not matter**, and a checker that fails counts as one that
is not there, if checkers of different names sign what they find. The live problems are the
last that some checker reports under each uid, less what is suppressed or whitelisted. -/
theorem check_perm (hnames : a.names.Nodup)
    (hsigns : ∀ checker ∈ a.checkers, checker.Signs c env d) (w : Whitelist) :
    (∀ b : Aggregate, b.checkers.Perm a.checkers →
      (b.check c env d w).problems.Perm (a.check c env d w).problems) ∧
    (a.succeeding c env d).check c env d w = a.check c env d w ∧
    (a.check c env d w).Keyed ∧
    ∀ p, p ∈ (a.check c env d w).problems ↔
      (∃ checker ∈ a.checkers, latest? (checker.reports c env d) p.uid = some p) ∧
        p.key ∉ w.keys := by
  have hmem : ∀ p, p ∈ (a.check c env d w).problems ↔
      (∃ checker ∈ a.checkers, latest? (checker.reports c env d) p.uid = some p) ∧
        p.key ∉ w.keys := fun p => mem_check_iff (apart_of_signs hnames hsigns)
  refine ⟨fun b hperm => ?_, check_succeeding a c env d w, keyed_check a c env d w, hmem⟩
  have hb : b.Apart c env d := by
    have hbnames : b.names.Nodup := (hperm.map Checker.name).nodup_iff.2 hnames
    exact apart_of_signs hbnames fun checker hc => hsigns checker (hperm.mem_iff.1 hc)
  refine (List.perm_ext_iff_of_nodup (keyed_check b c env d w).nodup
    (keyed_check a c env d w).nodup).2 fun p => ?_
  rw [hmem, mem_check_iff hb]
  simp only [hperm.mem_iff]

/-- A problem at the start of a line. -/
def mark (checker text : String) (line : UInt32) : Problem :=
  Problem.Draft.build
    { checker := checker.toList, text := text.toList, file := "a.tex".toList
      position := some ⟨line, 1⟩ }

/-- Two checkers that find something, and between them one that fails and one that crashes. -/
def mixed : Aggregate where
  checkers :=
    [.ofScan "A".toList fun _ => [mark "A" "old" 3, mark "A" "new" 3, mark "A" "hid" 2,
        mark "A" "known" 3],
      ⟨"B".toList, fun _ _ _ => ⟨.failed (.executableNotFound "b".toList), []⟩⟩,
      ⟨"C".toList, fun _ _ _ => ⟨.crashed, []⟩⟩,
      .ofScan "D".toList fun _ => [mark "D" "new" 3]]

/-- A page whose second line is suppressed. -/
def suppressedPage : Document := .ofSource "a.tex".toList "% buddy ignore-next\nx\ny".toList

def knownKeys : Whitelist := ⟨"keys".toList, ["A//known".toList], false⟩

theorem check_perm_mixed :
    mixed.names.Nodup ∧ (∀ checker ∈ mixed.checkers, checker.Signs {} .empty suppressedPage) ∧
      (mixed.check {} .empty suppressedPage knownKeys).problems =
        [mark "A" "new" 3, mark "D" "new" 3] ∧
      ((Aggregate.mk mixed.checkers.reverse).check {} .empty suppressedPage
        knownKeys).problems.Perm [mark "A" "new" 3, mark "D" "new" 3] := by
  have hnames : mixed.names.Nodup := by decide
  have hmark : ∀ {checker : String} (text : String) (line : UInt32),
      unitSeparator ∉ checker.toList → (mark checker text line).Separable :=
    fun _ _ hc => ⟨by simp [mark, Draft.build, unitSeparator], hc, by simp [mark, Draft.build],
      by simp [mark, Draft.build]⟩
  have hsigns : ∀ checker ∈ mixed.checkers, checker.Signs {} .empty suppressedPage := by
    intro checker hc p hp
    simp only [mixed, List.mem_cons, List.not_mem_nil, or_false] at hc
    rcases hc with rfl | rfl | rfl | rfl
    · simp only [Checker.findings, Checker.ofScan, Outcome.problems, List.mem_cons,
        List.not_mem_nil, or_false] at hp
      rcases hp with rfl | rfl | rfl | rfl
      all_goals exact ⟨rfl, hmark _ _ (by decide)⟩
    · simp [Checker.findings, Outcome.problems] at hp
    · simp [Checker.findings, Outcome.problems] at hp
    · obtain rfl : p = mark "D" "new" 3 := by
        simpa [Checker.findings, Checker.ofScan, Outcome.problems] using hp
      exact ⟨rfl, hmark _ _ (by decide)⟩
  have hlive : (mixed.check {} .empty suppressedPage knownKeys).problems =
      [mark "A" "new" 3, mark "D" "new" 3] := by cbv
  refine ⟨hnames, hsigns, hlive, ?_⟩
  rw [← hlive]
  exact (check_perm hnames hsigns knownKeys).1 _ (List.reverse_perm _)

end Aggregate

end LatexReview
