import Mathlib
import LatexReview.Proofs.Suppression.Consistent

/-!
The history of a record of suppressions.

Whatever lines are read, with whatever numbers, the recorded places are those of the open
suppressions, and no kind is open twice. So the kind that was started last is the same in
whatever order the places are kept. What the record holds once stays in its place: an open
suppression may be closed, a closed one never changes. The lines that change nothing are
those that ask for nothing, or for what is so already.
-/

namespace LatexReview.Suppression

/-- A suppression stays as it is, or is closed if it was open. -/
def Becomes (s t : Suppression) : Prop :=
  t = s ∨ s.stop = none ∧ ∃ stop, t = { s with stop := some stop }

lemma becomes_closed (kinds : List Kind) (line : UInt32) (s : Suppression) :
    s.Becomes (Record.closed kinds line s) := by
  unfold Record.closed
  split
  · rename_i h
    exact .inr ⟨h.2, _, rfl⟩
  · exact .inl rfl

lemma Becomes.trans {s t u : Suppression} (hst : s.Becomes t) (htu : t.Becomes u) :
    s.Becomes u := by
  rcases hst with rfl | ⟨ho, stop, rfl⟩
  · exact htu
  · -- It is closed by now, so it stays.
    rcases htu with rfl | ⟨hc, -⟩
    · exact .inr ⟨ho, stop, rfl⟩
    · simp at hc

namespace Record

variable {r s t : Record} {kind k : Kind} {line : UInt32} {text : Text}

/-- Reads lines in turn, each under a number of its own. -/
def readAll (r : Record) (calls : List (Text × UInt32)) : Record :=
  calls.foldl (fun r call => (r.readLine call.1 call.2).1) r

lemma readAll_concat (r : Record) (calls : List (Text × UInt32)) (text : Text) (line : UInt32) :
    r.readAll (calls ++ [(text, line)]) = ((r.readAll calls).readLine text line).1 := by
  simp [readAll]

/-! ### The index -/

/-- No two suppressions of one kind are open. -/
def OpenOnce (r : Record) : Prop :=
  ∀ (i j : ℕ) (s t : Suppression), r.suppressions[i]? = some s → r.suppressions[j]? = some t →
    s.stop = none → t.stop = none → s.kind = t.kind → i = j

/-- The recorded places are those of the open suppressions, and each kind has one at most. -/
structure Indexed (r : Record) : Prop where
  consistent : r.Consistent
  nodup : r.openKinds.Nodup

lemma indexed_empty : empty.Indexed := ⟨consistent_empty, List.nodup_nil⟩

lemma nodup_start (h : r.openKinds.Nodup) : (r.start kind line).1.openKinds.Nodup := by
  by_cases hk : kind ∈ r.openKinds
  · rwa [start_of_mem hk]
  · have hkinds : (r.start kind line).1.openKinds = r.openKinds ++ [kind] := by
      rw [start_of_not_mem hk]
      simp [openKinds]
    rw [hkinds]
    exact h.append (List.nodup_singleton kind) (List.disjoint_singleton.2 hk)

lemma nodup_stop (h : r.openKinds.Nodup) : (r.stop kind line).1.openKinds.Nodup := by
  unfold stop
  split
  · exact h.sublist (List.filter_sublist.map _)
  · exact h

lemma nodup_startAll {kinds : List Kind} (h : r.openKinds.Nodup) :
    (r.startAll kinds line).openKinds.Nodup := by
  induction kinds generalizing r with
  | nil => exact h
  | cons kind kinds ih => exact ih (nodup_start h)

lemma nodup_stopAll {kinds : List Kind} (h : r.openKinds.Nodup) :
    (r.stopAll kinds line).openKinds.Nodup := by
  induction kinds generalizing r with
  | nil => exact h
  | cons kind kinds ih => exact ih (nodup_stop h)

lemma Indexed.readLine (h : r.Indexed) : (r.readLine text line).1.Indexed := by
  refine ⟨h.consistent.readLine, ?_⟩
  rcases r.readLine_record text line with ⟨count, -, he⟩ | ⟨-, kinds, he | he⟩
  · rw [he]
    exact h.nodup
  · rw [he]
    exact nodup_startAll h.nodup
  · rw [he]
    exact nodup_stopAll h.nodup

lemma Indexed.readAll (h : r.Indexed) (calls : List (Text × UInt32)) :
    (r.readAll calls).Indexed := by
  induction calls using List.reverseRecOn with
  | nil => exact h
  | append_singleton calls call ih =>
    rw [readAll_concat]
    exact ih.readLine

lemma Consistent.openOnce (h : r.Consistent) : r.OpenOnce := by
  intro i j s t hs ht hos hot hkind
  obtain ⟨kind, start, stop⟩ := s
  obtain ⟨kind', start', stop'⟩ := t
  simp only at hos hot hkind
  subst hos hot hkind
  have hi : r.place? kind = some i := (h kind i).2 ⟨start, hs⟩
  have hj : r.place? kind = some j := (h kind j).2 ⟨start', ht⟩
  exact Option.some.inj (hi.symm.trans hj)

/-! ### What was started last -/

lemma Indexed.mem_openPlaces {place : ℕ} (h : r.Indexed) :
    (kind, place) ∈ r.openPlaces ↔ r.place? kind = some place :=
  (lookup_eq_some_iff_mem h.nodup).symm

lemma latest?_eq (h : r.place? .lines = none) :
    r.latest? = (r.openPlaces.argmax (·.2)).map (·.1) := by
  rw [latest?, h, List.argmax]
  refine congrArg (fun later : Option (Kind × ℕ) → Kind × ℕ → Option (Kind × ℕ) =>
    (r.openPlaces.foldl later none).map (·.1)) ?_
  funext best entry
  cases best <;> rfl

lemma Consistent.eq_of_place? {place : ℕ} (h : r.Consistent) (hk : r.place? k = some place)
    (hkind : r.place? kind = some place) : k = kind := by
  obtain ⟨start, hstart⟩ := (h k place).1 hk
  obtain ⟨start', hstart'⟩ := (h kind place).1 hkind
  rw [hstart] at hstart'
  simp only [Option.some.injEq, Suppression.mk.injEq] at hstart'
  exact hstart'.1

lemma Indexed.latest?_eq_some_iff (h : r.Indexed) :
    r.latest? = some kind ↔ ∃ place, r.place? kind = some place ∧
      (kind = .lines ∨
        r.place? .lines = none ∧ ∀ k p, r.place? k = some p → p ≤ place) := by
  cases hlines : r.place? .lines with
  | some place =>
    have hlatest : r.latest? = some .lines := by rw [latest?, hlines]
    rw [hlatest, Option.some.injEq]
    constructor
    · rintro rfl
      exact ⟨place, hlines, .inl rfl⟩
    · rintro ⟨-, -, rfl | ⟨hnone, -⟩⟩
      · rfl
      · simp at hnone
  | none =>
    rw [latest?_eq hlines, Option.map_eq_some_iff]
    constructor
    · rintro ⟨⟨kind, place⟩, hmax, rfl⟩
      refine ⟨place, h.mem_openPlaces.1 (List.argmax_mem hmax), .inr ⟨rfl, fun k p hp => ?_⟩⟩
      exact List.le_of_mem_argmax (f := (·.2)) (h.mem_openPlaces.2 hp) hmax
    · rintro ⟨place, hplace, rfl | ⟨-, hle⟩⟩
      · rw [hlines] at hplace
        simp at hplace
      cases hmax : r.openPlaces.argmax (·.2) with
      | none =>
        rw [List.argmax_eq_none] at hmax
        simpa [hmax] using h.mem_openPlaces.2 hplace
      | some entry =>
        obtain ⟨other, last⟩ := entry
        refine ⟨(other, last), rfl, ?_⟩
        have hother : r.place? other = some last := h.mem_openPlaces.1 (List.argmax_mem hmax)
        have hge : place ≤ last :=
          List.le_of_mem_argmax (f := (·.2)) (h.mem_openPlaces.2 hplace) hmax
        obtain rfl : last = place := le_antisymm (hle other last hother) hge
        exact h.consistent.eq_of_place? hother hplace

/-- What was started last does not depend on the order in which the places are kept. -/
def OrderFree (r : Record) : Prop :=
  ∀ places, places.Perm r.openPlaces → latest? ⟨r.suppressions, places⟩ = r.latest?

lemma Indexed.orderFree (h : r.Indexed) : r.OrderFree := by
  intro places hperm
  have hnodup : (places.map (·.1)).Nodup := (hperm.map _).nodup_iff.2 h.nodup
  have hplace (k : Kind) : place? ⟨r.suppressions, places⟩ k = r.place? k := by
    apply Option.ext
    intro place
    rw [place?, lookup_eq_some_iff_mem hnodup, hperm.mem_iff, h.mem_openPlaces]
  have hother : Indexed ⟨r.suppressions, places⟩ := by
    refine ⟨fun k place => ?_, hnodup⟩
    rw [hplace]
    exact h.consistent k place
  apply Option.ext
  intro k
  rw [hother.latest?_eq_some_iff, h.latest?_eq_some_iff]
  simp only [hplace]

/-! ### The history -/

/-- Each suppression has its place in the later record, and is the same there, or closed. -/
def GrowsTo (r s : Record) : Prop :=
  ∀ (i : ℕ) (f : Suppression), r.suppressions[i]? = some f →
    ∃ g, s.suppressions[i]? = some g ∧ f.Becomes g

lemma GrowsTo.refl (r : Record) : r.GrowsTo r := fun _ f hf => ⟨f, hf, .inl rfl⟩

lemma GrowsTo.trans (hrs : r.GrowsTo s) (hst : s.GrowsTo t) : r.GrowsTo t := by
  intro i f hf
  obtain ⟨g, hg, hfg⟩ := hrs i f hf
  obtain ⟨u, hu, hgu⟩ := hst i g hg
  exact ⟨u, hu, hfg.trans hgu⟩

lemma growsTo_of_append {new : List Suppression} (h : s.suppressions = r.suppressions ++ new) :
    r.GrowsTo s := by
  intro i f hf
  refine ⟨f, ?_, .inl rfl⟩
  rw [h, List.getElem?_append_left (List.getElem?_eq_some_iff.1 hf).1, hf]

lemma Consistent.growsTo_readLine (h : r.Consistent) : r.GrowsTo (r.readLine text line).1 := by
  rcases r.readLine_record text line with ⟨count, -, he⟩ | ⟨-, kinds, he | he⟩
  · exact he ▸ growsTo_of_append rfl
  · obtain ⟨new, hnew, -⟩ := r.suppressions_startAll kinds line
    exact he ▸ growsTo_of_append hnew
  · intro i f hf
    refine ⟨closed kinds line f, ?_, becomes_closed kinds line f⟩
    rw [he, h.suppressions_stopAll, List.getElem?_map, hf, Option.map_some]

lemma Indexed.growsTo_readAll (h : r.Indexed) (calls : List (Text × UInt32)) :
    r.GrowsTo (r.readAll calls) := by
  induction calls using List.reverseRecOn with
  | nil => exact GrowsTo.refl r
  | append_singleton calls call ih =>
    rw [readAll_concat]
    exact ih.trans (h.readAll calls).consistent.growsTo_readLine

/-! ### Lines that change nothing -/

/-- What a directive asks for is so already. -/
def Settled (r : Record) : Directive → Prop
  | .next _ => False
  | .start kinds => ∀ k ∈ kinds, k ∈ r.openKinds
  | .stop kinds => ∀ k ∈ kinds, k ∉ r.openKinds
  | .stopLatest => r.openPlaces = []

/-- A line asks for nothing, or for what is so already. -/
inductive Idle (r : Record) (text : Text) : Prop where
  | noDirective (h : Command.ofLine? text = none)
  | unreadable {command : Command} {e : CommandError} (h : Command.ofLine? text = some command)
    (hread : command.read = .error e)
  | settled {command : Command} {reading : Reading} (h : Command.ofLine? text = some command)
    (hread : command.read = .ok reading) (hsettled : r.Settled reading.directive)

lemma readLine_of_read {command : Command} {reading : Reading}
    (h : Command.ofLine? text = some command) (hread : command.read = .ok reading) :
    (r.readLine text line).1 = (r.obey reading.directive line).1 := by
  simp [readLine, h, hread]

lemma startAll_eq_self_iff {kinds : List Kind} :
    r.startAll kinds line = r ↔ ∀ k ∈ kinds, k ∈ r.openKinds := by
  constructor
  · intro h k hk
    have hmem : k ∈ (r.startAll kinds line).openKinds := mem_openKinds_startAll.2 (.inr hk)
    rwa [h] at hmem
  · intro h
    induction kinds with
    | nil => rfl
    | cons kind kinds ih =>
      rw [startAll, List.foldl_cons, start_of_mem (h kind (by simp))]
      exact ih fun k hk => h k (by simp [hk])

lemma stopAll_eq_self_iff {kinds : List Kind} :
    r.stopAll kinds line = r ↔ ∀ k ∈ kinds, k ∉ r.openKinds := by
  constructor
  · intro h k hk hmem
    rw [← h, mem_openKinds_stopAll] at hmem
    exact hmem.2 hk
  · intro h
    induction kinds with
    | nil => rfl
    | cons kind kinds ih =>
      have hkind : (r.stop kind line).1 = r := by
        simp [stop, not_mem_openKinds.1 (h kind (by simp))]
      rw [stopAll, List.foldl_cons, hkind]
      exact ih fun k hk => h k (by simp [hk])

lemma Indexed.latest?_eq_none_iff (h : r.Indexed) : r.latest? = none ↔ r.openPlaces = [] := by
  cases hlines : r.place? .lines with
  | some place =>
    have hmem := h.mem_openPlaces.2 hlines
    have hne : r.openPlaces ≠ [] := List.ne_nil_of_mem hmem
    simp [latest?, hlines, hne]
  | none => simp [latest?_eq hlines]

lemma Indexed.stopLatest_eq_self_iff (h : r.Indexed) :
    (r.stopLatest line).1 = r ↔ r.openPlaces = [] := by
  rw [← h.latest?_eq_none_iff]
  cases hlatest : r.latest? with
  | none => simp [stopLatest, hlatest]
  | some kind =>
    obtain ⟨place, hplace, -⟩ := h.latest?_eq_some_iff.1 hlatest
    have hopen : kind ∈ r.openKinds := mem_openKinds.2 ⟨place, hplace⟩
    have hstop : (r.stopLatest line).1 = r.stopAll [kind] line := by
      simp [stopLatest, hlatest, stopAll]
    simp [hstop, stopAll_eq_self_iff, hopen]

lemma Indexed.obey_eq_self_iff {directive : Directive} (h : r.Indexed) :
    (r.obey directive line).1 = r ↔ r.Settled directive := by
  cases directive with
  | next count =>
    refine iff_of_false (fun he => ?_) id
    have hlength := congrArg (fun r => r.suppressions.length) he
    simp [obey] at hlength
  | start kinds =>
    have hall : (r.obey (.start kinds) line).1 = r.startAll kinds line := forEach_record _ r kinds
    rw [hall]
    exact startAll_eq_self_iff
  | stop kinds =>
    have hall : (r.obey (.stop kinds) line).1 = r.stopAll kinds line := forEach_record _ r kinds
    rw [hall]
    exact stopAll_eq_self_iff
  | stopLatest => exact h.stopLatest_eq_self_iff

/-- **A line changes nothing** just when it asks for nothing new. -/
lemma Indexed.readLine_eq_self_iff (h : r.Indexed) :
    (r.readLine text line).1 = r ↔ r.Idle text := by
  cases hc : Command.ofLine? text with
  | none => exact iff_of_true (by simp [Record.readLine, hc]) (.noDirective hc)
  | some command =>
    cases hr : command.read with
    | error e =>
      exact iff_of_true (by cases e <;> simp [Record.readLine, hc, hr]) (.unreadable hc hr)
    | ok reading =>
      rw [readLine_of_read hc hr, h.obey_eq_self_iff]
      constructor
      · exact .settled hc hr
      · rintro (hnone | ⟨hsome, herror⟩ | ⟨hsome, hok, hsettled⟩) <;> simp_all

/-- **A record keeps its index and its history**: after lines of any kind and number, a
further line leaves it with the places of just the open suppressions, one of a kind at most,
in whatever order they are kept; what it held before it still holds, but for the end of what
was open, and so it remains. The line changes nothing just when it asks for nothing new. -/
theorem index_and_history (calls : List (Text × UInt32)) (text : Text) (line : UInt32) :
    let before := empty.readAll calls
    let after := (before.readLine text line).1
    after.Consistent ∧ after.OpenOnce ∧ after.OrderFree ∧ before.GrowsTo after ∧
      (∀ more, after.GrowsTo (after.readAll more)) ∧ (after = before ↔ before.Idle text) := by
  intro before after
  have hbefore : before.Indexed := indexed_empty.readAll calls
  have hafter : after.Indexed := hbefore.readLine
  exact ⟨hafter.consistent, hafter.consistent.openOnce, hafter.orderFree,
    hbefore.consistent.growsTo_readLine, hafter.growsTo_readAll, hbefore.readLine_eq_self_iff⟩

end Record

end LatexReview.Suppression
