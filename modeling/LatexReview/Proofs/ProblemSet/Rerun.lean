import Mathlib
import LatexReview.Aggregate
import LatexReview.Proofs.Problem.Key
import LatexReview.Proofs.ProblemSet.Latest

/-!
Whitelisting live problems is running the check again.

However many problems are whitelisted by their uids, those left are the ones that a new
check returns with the whitelist as its file reads by then.
-/

namespace LatexReview

/-! ### Problems and their keys -/

/-- A problem made from a draft. Checkers have no other way to make one. -/
def Problem.Built (p : Problem) : Prop := ∃ draft : Problem.Draft, p = draft.build

lemma Problem.Built.isValid_key {p : Problem} (h : p.Built) (hk : p.key.blank = false) :
    Whitelist.isValid p.key := by
  obtain ⟨draft, rfl⟩ := h
  exact draft.isValid_key hk

namespace ProblemSet

variable {s : State} {ps : ProblemSet} {w : Whitelist} {path : Path} {uid key : Text}

lemma withoutWhitelisted_concat (unended : Bool) :
    (ps.withoutWhitelisted w).withoutWhitelisted
        { w with keys := w.keys ++ [key], unended := unended } =
      ps.withoutWhitelisted { w with keys := w.keys ++ [key], unended := unended } := by
  simp only [withoutWhitelisted, Whitelist.filter, Whitelist.contains, List.filter_filter]
  congr 1
  refine List.filter_congr fun p _ => ?_
  by_cases hp : p.key ∈ w.keys <;> simp [hp]

lemma withoutWhitelisted_eq_filter (key : Text) (unended : Bool)
    (h : ∀ p ∈ ps.problems, p.key ∉ w.keys) :
    ps.withoutWhitelisted { w with keys := w.keys ++ [key], unended := unended } =
      ⟨ps.problems.filter (·.key ≠ key)⟩ := by
  simp only [withoutWhitelisted, Whitelist.filter, Whitelist.contains]
  congr 1
  refine List.filter_congr fun p hp => ?_
  simp [h p hp]

lemma size_sub_size (ps : ProblemSet) (key : Text) :
    ps.size - size ⟨ps.problems.filter (·.key ≠ key)⟩ = ps.countKey key := by
  have h := List.length_eq_countP_add_countP (fun p : Problem => decide (p.key = key))
    (l := ps.problems)
  have hf : (ps.problems.filter (·.key ≠ key)).length =
      ps.problems.countP fun p => ¬ decide (p.key = key) := by
    rw [List.countP_eq_length_filter]
    simp
  rw [size, size, countKey, hf]
  omega

/-! ### Whitelisting by uid -/

/-- The live problems are those of a set less what is whitelisted, and the whitelist is what
its file reads as. -/
structure UpToDate (ps : ProblemSet) (path : Path) (s : State) : Prop where
  loaded : s.whitelist.Loaded
  path_eq : s.whitelist.whitelist.path = path
  live : s.live = ps.withoutWhitelisted s.whitelist.whitelist

/-- The whitelist can take up a key in its file. -/
def State.Writes (s : State) (key : Text) : Prop :=
  ∃ files, s.whitelist.files.append s.whitelist.whitelist.path
    (s.whitelist.whitelist.entry key) = .ok files

/-- What whitelisting a uid comes to. -/
structure Settled (s : State) (uid : Text) : Prop where
  unknown : s.live.get? uid = none →
    (s.whitelistUid uid).1 = .ok 0 ∧ (s.whitelistUid uid).2.1 = s
  failed : ∀ e, (s.whitelistUid uid).1 = .error e → (s.whitelistUid uid).2.1 = s
  blank : ∀ p, s.live.get? uid = some p → p.key.blank →
    (s.whitelistUid uid).1 = .error (.invalidKey p.key)
  removed : ∀ p, s.live.get? uid = some p → p.key.blank = false → s.Writes p.key →
    (s.whitelistUid uid).1 = .ok (s.live.countKey p.key) ∧
      (s.whitelistUid uid).2.1.live = ⟨s.live.problems.filter (·.key ≠ p.key)⟩

lemma mem_of_get? {p : Problem} (h : ps.get? uid = some p) : p ∈ ps.problems :=
  List.mem_of_find?_eq_some h

section

variable (h : UpToDate ps path s)

include h in
lemma UpToDate.not_mem {p : Problem} (hp : p ∈ s.live.problems) :
    p.key ∉ s.whitelist.whitelist.keys := by
  rw [h.live] at hp
  exact (mem_withoutWhitelisted.1 hp).2

include h in
lemma UpToDate.whitelistUid_new {p : Problem} {files : FileTree}
    (hp : s.live.get? uid = some p) (hv : Whitelist.isValid p.key)
    (happend : s.whitelist.files.append s.whitelist.whitelist.path
      (s.whitelist.whitelist.entry p.key) = .ok files) :
    (s.whitelistUid uid).1 = .ok (s.live.countKey p.key) ∧
      (s.whitelistUid uid).2.1 = ⟨⟨s.live.problems.filter (·.key ≠ p.key)⟩,
        ⟨{ s.whitelist.whitelist with
          keys := s.whitelist.whitelist.keys ++ [p.key], unended := false }, files⟩⟩ := by
  have hadd := Whitelist.State.add_new hv (h.not_mem (mem_of_get? hp)) happend
  have hlive := withoutWhitelisted_eq_filter p.key false fun q hq => h.not_mem hq
  simp only [State.whitelistUid, hp, hadd, State.applyWhitelist, hlive, size_sub_size, and_self]

include h in
lemma UpToDate.whitelistUid_cases (uid : Text) :
    (s.live.get? uid = none ∧ (s.whitelistUid uid).1 = .ok 0 ∧ (s.whitelistUid uid).2.1 = s) ∨
      (∃ e, (s.whitelistUid uid).1 = .error e ∧ (s.whitelistUid uid).2.1 = s) ∨
      ∃ p files, s.live.get? uid = some p ∧ Whitelist.isValid p.key ∧
        s.whitelist.files.append s.whitelist.whitelist.path
          (s.whitelist.whitelist.entry p.key) = .ok files := by
  cases hp : s.live.get? uid with
  | none => exact Or.inl (by simp [State.whitelistUid, hp])
  | some p =>
    refine Or.inr ?_
    rcases s.whitelist.add_cases p.key with ⟨e, he⟩ | ⟨hk, -⟩ | ⟨hv, -, files, happend⟩
    · exact Or.inl ⟨e, by simp [State.whitelistUid, hp, he]⟩
    · exact absurd hk (h.not_mem (mem_of_get? hp))
    · exact Or.inr ⟨p, files, rfl, hv, happend⟩

include h in
/-- **One call** leaves the live problems up to date. -/
lemma UpToDate.whitelistUid : UpToDate ps path (s.whitelistUid uid).2.1 := by
  rcases h.whitelistUid_cases uid with ⟨-, -, hs⟩ | ⟨e, -, hs⟩ | ⟨p, files, hp, hv, happend⟩
  · rwa [hs]
  · rwa [hs]
  · have hnew := h.not_mem (mem_of_get? hp)
    rw [(h.whitelistUid_new hp hv happend).2]
    refine ⟨h.loaded.append hv hnew happend, h.path_eq, ?_⟩
    rw [← withoutWhitelisted_concat, ← h.live]
    exact (withoutWhitelisted_eq_filter p.key false fun q hq => h.not_mem hq).symm

include h in
lemma UpToDate.settled (hbuilt : ∀ p ∈ ps.problems, p.Built) (uid : Text) : Settled s uid := by
  constructor
  case unknown =>
    intro hn
    simp [State.whitelistUid, hn]
  case failed =>
    intro e he
    rcases h.whitelistUid_cases uid with ⟨-, hok, -⟩ | ⟨e, -, hs⟩ | ⟨p, files, hp, hv, happend⟩
    · simp [hok] at he
    · exact hs
    · simp [(h.whitelistUid_new hp hv happend).1] at he
  case blank =>
    intro p hp hb
    have hv : Whitelist.isValid p.key = false := by simp [Whitelist.isValid, hb]
    simp [State.whitelistUid, hp, Whitelist.State.add_invalid hv]
  case removed =>
    rintro p hp hb ⟨files, happend⟩
    have hlive := mem_of_get? hp
    rw [h.live, mem_withoutWhitelisted] at hlive
    obtain ⟨hcount, hs⟩ := h.whitelistUid_new hp ((hbuilt p hlive.1).isValid_key hb) happend
    exact ⟨hcount, by rw [hs]⟩

end

def State.whitelistUids (s : State) (uids : List Text) : State :=
  uids.foldl (fun s uid => (s.whitelistUid uid).2.1) s

lemma UpToDate.whitelistUids (h : UpToDate ps path s) (uids : List Text) :
    UpToDate ps path (s.whitelistUids uids) := by
  induction uids generalizing s with
  | nil => exact h
  | cons uid uids ih => exact ih h.whitelistUid

end ProblemSet

/-! ### Checking again -/

/-- What a checker reports on a document does not depend on the files around. -/
def Checker.IgnoresFiles (checker : Checker) (c : Config) (env : Environment) (d : Document) :
    Prop :=
  ∀ files, (checker.run c { env with files } d).outcome = (checker.run c env d).outcome

namespace Aggregate

variable {a : Aggregate} {c : Config} {env : Environment} {d : Document}

lemma found_congr (h : ∀ checker ∈ a.checkers, checker.IgnoresFiles c env d)
    (files : FileTree) : a.found c { env with files } d = a.found c env d := by
  simp only [found, trials, List.flatMap_map]
  exact List.flatMap_congr fun checker hc => by rw [h checker hc files]

/-- What a check finds, before the whitelist is looked at. -/
def unfiltered (a : Aggregate) (c : Config) (env : Environment) (d : Document) : ProblemSet :=
  .ofList ((Suppression.Record.ofSource d.source).1.apply (a.found c env d))

/-- The live problems of a first check, with the whitelist and the files around. -/
def session (a : Aggregate) (c : Config) (env : Environment) (d : Document) (w : Whitelist) :
    ProblemSet.State :=
  ⟨a.check c env d w, ⟨w, env.files⟩⟩

lemma upToDate_session {path : Path} {w : Whitelist}
    (hload : Whitelist.load env.files path = .ok w) :
    ProblemSet.UpToDate (a.unfiltered c env d) path (a.session c env d w) := by
  have hpath : w.path = path := by
    obtain ⟨content, -, rfl⟩ := Whitelist.load_eq_ok.1 hload
    rfl
  exact ⟨by rwa [Whitelist.State.Loaded, session, hpath], hpath, rfl⟩

/-- **Whitelisting is checking again**: after any calls, the live problems are those that a
new check finds with the whitelist read again from its file. A call on a live problem removes
just those with its key and counts them, and any other call leaves all as it was. -/
theorem check_whitelistUids {path : Path} {w : Whitelist}
    (hfiles : ∀ checker ∈ a.checkers, checker.IgnoresFiles c env d)
    (hbuilt : ∀ p ∈ a.found c env d, p.Built)
    (hload : Whitelist.load env.files path = .ok w) (uids : List Text) :
    let s := (a.session c env d w).whitelistUids uids
    (∃ w', Whitelist.load s.whitelist.files path = .ok w' ∧
      s.live = a.check c { env with files := s.whitelist.files } d w') ∧
    ∀ uid, ProblemSet.Settled s uid := by
  intro s
  have h : ProblemSet.UpToDate (a.unfiltered c env d) path s :=
    (upToDate_session hload).whitelistUids uids
  constructor
  · refine ⟨s.whitelist.whitelist, ?_, ?_⟩
    · rw [← h.path_eq]
      exact h.loaded
    · rw [h.live, check, unfiltered, found_congr hfiles s.whitelist.files]
  · refine h.settled fun p hp => hbuilt p ?_
    exact (List.mem_filter.1 (ProblemSet.mem_ofList hp)).1

/-- A word that is not spelled right. -/
def misspelling : Problem :=
  Problem.Draft.build
    { checker := "Speller".toList, text := "wrnog".toList, file := "a.tex".toList
      position := some ⟨1, 1⟩, category := some "spelling".toList
      language := some "en".toList }

def speller : Aggregate := ⟨[.ofScan "Speller".toList fun _ => [misspelling]]⟩

def page : Document := .ofSource "a.tex".toList "wrnog".toList

/-- The whitelist of a missing file. -/
def fresh : Whitelist := ⟨"whitelist".toList, [], false⟩

theorem check_whitelistUids_speller :
    (∀ checker ∈ speller.checkers, checker.IgnoresFiles {} .empty page) ∧
    (∀ p ∈ speller.found {} .empty page, p.Built) ∧
    Whitelist.load .empty fresh.path = .ok fresh ∧
    ((speller.session {} .empty page fresh).whitelistUid misspelling.uid).1 = .ok 1 := by
  have hfiles : ∀ checker ∈ speller.checkers, checker.IgnoresFiles {} .empty page := by
    simp [speller, Checker.IgnoresFiles, Checker.ofScan]
  have hbuilt : ∀ p ∈ speller.found {} .empty page, p.Built := by
    intro p hp
    obtain rfl : p = misspelling := List.mem_singleton.1 hp
    exact ⟨_, rfl⟩
  have hload : Whitelist.load .empty fresh.path = .ok fresh := by cbv
  have hlive : (speller.session {} .empty page fresh).live.get? misspelling.uid =
      some misspelling := by cbv
  have hcount : (speller.session {} .empty page fresh).live.countKey misspelling.key = 1 := by cbv
  have hsettled := (check_whitelistUids hfiles hbuilt hload []).2 misspelling.uid
  have hremoved := (hsettled.removed misspelling hlive (by cbv) ⟨_, by cbv⟩).1
  exact ⟨hfiles, hbuilt, hload, hcount ▸ hremoved⟩

end Aggregate

end LatexReview
