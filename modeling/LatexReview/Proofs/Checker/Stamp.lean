import Mathlib
import LatexReview.Proofs.Basic
import LatexReview.Proofs.Aggregate.Merge
import LatexReview.Proofs.Checker.Aspell

/-!
Which checker a problem comes from.

The checkers of the library put their own name and the path of the document on all that they
find, also on what an external program told them. So no two of them share a uid, and what is
live of one does not depend on the others.
-/

namespace LatexReview

open Problem

variable {c : Config} {env : Environment} {d : Document} {p : Problem}

/-- A checker puts its own name and the path of the document on what it finds. -/
structure Checker.Stamps (checker : Checker) (c : Config) (env : Environment) (d : Document) :
    Prop where
  name : unitSeparator ∉ checker.name
  findings : ∀ p ∈ checker.findings c env d, p.checker = checker.name ∧ p.file = d.path

namespace Checker

lemma stamps_ofScan {name : Text} {scan : Document → List Problem} (hn : unitSeparator ∉ name)
    (h : ∀ p ∈ scan d, p.checker = name ∧ p.file = d.path) :
    (ofScan name scan).Stamps c env d :=
  ⟨hn, h⟩

lemma Stamps.uid_ne {checker other : Checker} {q : Problem} (h : checker.Stamps c env d)
    (ho : other.Stamps c env d) (hne : checker.name ≠ other.name)
    (hp : p ∈ checker.findings c env d) (hq : q ∈ other.findings c env d) :
    p.uid ≠ q.uid := by
  obtain ⟨hpc, hpf⟩ := h.findings p hp
  obtain ⟨hqc, hqf⟩ := ho.findings q hq
  intro huid
  refine hne ?_
  calc
    checker.name = p.checker := hpc.symm
    _ = q.checker :=
      checker_eq_of_file_eq (hpf.trans hqf.symm) (hpc ▸ h.name) (hqc ▸ ho.name) huid
    _ = other.name := hqc

end Checker

/-! ### The checkers of the library -/

lemma Chktex.stamp {path : Path} {output : Text} {ps : List Problem}
    (h : problems path output = .ok ps) (hp : p ∈ ps) :
    p.checker = checkerName ∧ p.file = path := by
  obtain ⟨line, -, hline⟩ := exists_of_mem_mapM h hp
  unfold lineProblem at hline
  split at hline
  · rename_i record _
    obtain ⟨row, -, hline⟩ := bind_eq_ok.1 hline
    obtain ⟨column, -, hline⟩ := bind_eq_ok.1 hline
    obtain ⟨length, -, hline⟩ := bind_eq_ok.1 hline
    obtain rfl := Except.ok.inj hline
    exact ⟨rfl, rfl⟩
  · cases hline

lemma Chktex.stamps : Chktex.checker.Stamps c env d := by
  refine ⟨by decide, fun p hp => ?_⟩
  simp only [Checker.findings, checker, run] at hp
  split at hp
  · simp [Outcome.problems] at hp
  split at hp
  · simp [Outcome.problems] at hp
  · rename_i o calls _
    unfold outcome at hp
    split at hp
    · simp [Outcome.problems] at hp
    cases hps : problems d.path o.stdout with
    | error f => simp [hps, outcomeOf, Outcome.problems] at hp
    | ok ps =>
      rw [hps] at hp
      exact stamp hps hp

lemma Aspell.stamp {line : ℕ} {replies : List Text}
    (hp : p ∈ (readFrom c d line replies).problems) :
    p.checker = checkerName ∧ p.file = d.path := by
  obtain ⟨line, m, -, rfl⟩ := exists_miss_of_mem hp
  exact ⟨rfl, rfl⟩

lemma Aspell.stamps : Aspell.checker.Stamps c env d := by
  refine ⟨by decide, fun p hp => ?_⟩
  simp only [Checker.findings, checker, run] at hp
  split at hp
  · simp [Outcome.problems] at hp
  split at hp
  · simp [Outcome.problems] at hp
  split at hp
  · simp [Outcome.problems] at hp
  · exact stamp hp

lemma Bibliography.stamps : Bibliography.checker.Stamps c env d := by
  refine ⟨by decide, fun p hp => ?_⟩
  simp only [Checker.findings, checker, outcome] at hp
  split at hp
  · simp [Outcome.problems] at hp
  split at hp
  · obtain ⟨⟨a, b⟩, -, rfl⟩ := List.mem_map.1 hp
    exact ⟨rfl, rfl⟩
  · simp [Outcome.problems] at hp

/-- **Every checker of the library** stamps what it finds. -/
theorem Registry.stamps_builtins : ∀ checker ∈ builtins, checker.Stamps c env d := by
  simp only [builtins, List.forall_mem_cons, List.not_mem_nil, false_imp_iff, implies_true,
    and_true]
  refine ⟨?errors, ?figures, ?numbers, ?sections, ?addresses, ?references, Bibliography.stamps,
    Chktex.stamps, Aspell.stamps⟩
  case numbers =>
    refine Checker.stamps_ofScan (by decide) (List.forall_mem_append.2 ⟨?_, ?_⟩)
    · exact List.forall_mem_map.2 fun _ _ => ⟨rfl, rfl⟩
    · exact List.forall_mem_map.2 fun _ _ => ⟨rfl, rfl⟩
  all_goals
    exact Checker.stamps_ofScan (by decide) (List.forall_mem_map.2 fun _ _ => ⟨rfl, rfl⟩)

lemma Registry.eq_of_name_eq {checker other : Checker} (h : checker ∈ builtins)
    (ho : other ∈ builtins) (hname : checker.name = other.name) : checker = other := by
  have hnames : (builtins.map (·.name)).Nodup := by decide
  exact List.inj_on_of_nodup_map hnames h ho hname

/-! ### One checker among others -/

namespace Aggregate

/-- A checker of the library is among the others, which are of the library too, or of
another name and stamp what they find. -/
structure Hosts (a : Aggregate) (checker : Checker) (c : Config) (env : Environment)
    (d : Document) : Prop where
  builtin : checker ∈ Registry.builtins
  mem : checker ∈ a.checkers
  others : ∀ other ∈ a.checkers,
    other ∈ Registry.builtins ∨ other.name ≠ checker.name ∧ other.Stamps c env d

variable {a : Aggregate} {checker : Checker} {w : Whitelist}

lemma Hosts.eq_or_stamps (h : a.Hosts checker c env d) :
    ∀ other ∈ a.checkers,
      other = checker ∨ other.name ≠ checker.name ∧ other.Stamps c env d := by
  intro other ho
  rcases h.others other ho with hbuiltin | hstamps
  · by_cases hname : other.name = checker.name
    · exact Or.inl (Registry.eq_of_name_eq hbuiltin h.builtin hname)
    · exact Or.inr ⟨hname, Registry.stamps_builtins other hbuiltin⟩
  · exact Or.inr hstamps

/-- The live problems of a checker after a check. -/
def liveOf (a : Aggregate) (checker : Checker) (c : Config) (env : Environment) (d : Document)
    (w : Whitelist) : List Problem :=
  (a.check c env d w).problems.filter (·.checker = checker.name)

lemma nodup_uids_liveOf (a : Aggregate) (checker : Checker) (c : Config) (env : Environment)
    (d : Document) (w : Whitelist) : ((a.liveOf checker c env d w).map uid).Nodup :=
  (keyed_check a c env d w).sublist (List.filter_sublist.map _)

/-- **What is live of a checker** is what it alone would leave. -/
lemma Hosts.mem_liveOf_iff (h : a.Hosts checker c env d) :
    p ∈ a.liveOf checker c env d w ↔
      latest? (checker.reports c env d) p.uid = some p ∧ p.key ∉ w.keys := by
  have hstamps : checker.Stamps c env d := Registry.stamps_builtins checker h.builtin
  rw [liveOf, List.mem_filter, decide_eq_true_eq, check_eq, ProblemSet.mem_withoutWhitelisted,
    ProblemSet.mem_ofList_iff]
  -- A problem in the name of the checker has a uid that no other one reports.
  have honly : p ∈ checker.findings c env d →
      latest? (a.checkers.flatMap (·.reports c env d)) p.uid =
        latest? (checker.reports c env d) p.uid := by
    intro hp
    refine latest?_flatMap_of_only h.mem fun other ho => ?_
    rcases h.eq_or_stamps other ho with rfl | ⟨hne, hother⟩
    · exact Or.inl rfl
    · exact Or.inr fun q hq => hother.uid_ne hstamps hne (Checker.mem_reports.1 hq).1 hp
  constructor
  · rintro ⟨⟨hlatest, hkey⟩, hname⟩
    obtain ⟨other, ho, hp⟩ := List.mem_flatMap.1 (mem_of_latest? hlatest)
    have hp := (Checker.mem_reports.1 hp).1
    rcases h.eq_or_stamps other ho with rfl | ⟨hne, hother⟩
    · exact ⟨honly hp ▸ hlatest, hkey⟩
    · exact absurd ((hother.findings p hp).1.symm.trans hname) hne
  · rintro ⟨hlatest, hkey⟩
    have hp := (Checker.mem_reports.1 (mem_of_latest? hlatest)).1
    exact ⟨⟨(honly hp).trans hlatest, hkey⟩, (hstamps.findings p hp).1⟩

def library : Aggregate := ⟨Registry.builtins⟩

lemma library_hosts (h : checker ∈ Registry.builtins) : library.Hosts checker c env d :=
  ⟨h, h, fun _ ho => Or.inl ho⟩

lemma Hosts.mem_liveOf_iff_of_kept (h : a.Hosts checker c env d)
    (hkept : ∀ p ∈ checker.findings c env d,
      (Suppression.Record.ofSource d.source).1.suppresses p = false ∧ p.key ∉ w.keys) :
    p ∈ a.liveOf checker c env d w ↔
      latest? (checker.findings c env d) p.uid = some p := by
  have hreports : checker.reports c env d = checker.findings c env d := by
    refine List.filter_eq_self.2 fun p hp => ?_
    rw [(hkept p hp).1]
    rfl
  rw [h.mem_liveOf_iff, hreports]
  exact and_iff_left_of_imp fun hlatest => (hkept p (mem_of_latest? hlatest)).2

end Aggregate

end LatexReview
