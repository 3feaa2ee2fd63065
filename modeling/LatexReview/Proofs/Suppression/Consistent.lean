import Mathlib
import LatexReview.Proofs.Basic
import LatexReview.Suppression.Record

/-!
A record of suppressions knows which of them are open.

Each directive starts suppressions, or stops some, or adds one that is closed at once. All
keep the recorded places those of the open suppressions, so at most one of a kind is open.
-/

namespace LatexReview.Suppression.Record

variable {r : Record} {kind k : Kind} {line : UInt32}

/-- The kinds of which a suppression is open. -/
def openKinds (r : Record) : List Kind := r.openPlaces.map (·.1)

/-- The recorded places are those of the open suppressions. -/
def Consistent (r : Record) : Prop :=
  ∀ kind place, r.place? kind = some place ↔
    ∃ start, r.suppressions[place]? = some ⟨kind, start, none⟩

lemma mem_openKinds : kind ∈ r.openKinds ↔ ∃ place, r.place? kind = some place := by
  rw [← Option.isSome_iff_exists, place?, List.lookup_isSome_iff, openKinds, List.mem_map]
  simp only [beq_iff_eq]
  exact exists_congr fun entry => and_congr_right fun _ => eq_comm

lemma not_mem_openKinds : kind ∉ r.openKinds ↔ r.place? kind = none := by
  rw [mem_openKinds, Option.eq_none_iff_forall_ne_some, not_exists]

lemma Consistent.mem_openKinds (h : r.Consistent) :
    kind ∈ r.openKinds ↔ ∃ start, ⟨kind, start, none⟩ ∈ r.suppressions := by
  rw [Record.mem_openKinds]
  simp only [h kind, List.mem_iff_getElem?]
  exact exists_comm

lemma consistent_empty : empty.Consistent := by
  intro kind place
  simp [empty, place?]

/-! ### Starting and stopping a kind -/

/-- A suppression that was open is closed, if it is of one of some kinds. -/
def closed (kinds : List Kind) (line : UInt32) (s : Suppression) : Suppression :=
  if s.kind ∈ kinds ∧ s.stop = none then { s with stop := some (previousLine line) } else s

lemma closed_eq_open {kinds : List Kind} {s : Suppression} {start : UInt32} :
    closed kinds line s = ⟨kind, start, none⟩ ↔ s = ⟨kind, start, none⟩ ∧ kind ∉ kinds := by
  obtain ⟨kind', start', stop'⟩ := s
  unfold closed
  split
  · rename_i h
    constructor
    · simp
    · rintro ⟨he, hk⟩
      obtain ⟨rfl, rfl, rfl⟩ := Suppression.mk.inj he
      exact absurd h.1 hk
  · rename_i h
    refine ⟨fun he => ⟨he, fun hk => h ?_⟩, And.left⟩
    obtain ⟨rfl, rfl, rfl⟩ := Suppression.mk.inj he
    exact ⟨hk, rfl⟩

lemma closed_nil : closed [] line = id := by
  funext s
  simp [closed]

lemma closed_closed {kinds : List Kind} {s : Suppression} :
    closed kinds line (closed [kind] line s) = closed (kind :: kinds) line s := by
  obtain ⟨k, start, stop⟩ := s
  cases stop with
  | some stop => simp [closed]
  | none => by_cases hk : k = kind <;> simp [closed, hk]

lemma start_of_mem (h : kind ∈ r.openKinds) : (r.start kind line).1 = r := by
  obtain ⟨place, hp⟩ := mem_openKinds.1 h
  simp [start, hp]

lemma start_of_not_mem (h : kind ∉ r.openKinds) :
    (r.start kind line).1 = ⟨r.suppressions ++ [⟨kind, nextLine line, none⟩],
      r.openPlaces ++ [(kind, r.suppressions.length)]⟩ := by
  simp [start, not_mem_openKinds.1 h]

lemma mem_openKinds_start : k ∈ (r.start kind line).1.openKinds ↔ k ∈ r.openKinds ∨ k = kind := by
  by_cases h : kind ∈ r.openKinds
  · rw [start_of_mem h]
    exact ⟨Or.inl, fun hk => hk.elim id fun he => he ▸ h⟩
  · rw [start_of_not_mem h]
    simp [openKinds]

lemma place?_start (h : kind ∉ r.openKinds) :
    (r.start kind line).1.place? k =
      if k = kind then some r.suppressions.length else r.place? k := by
  rw [start_of_not_mem h]
  rw [not_mem_openKinds] at h
  by_cases hk : k = kind
  · subst hk
    rw [place?] at h
    simp [place?, List.lookup_append, h]
  · have hb : (k == kind) = false := by simpa using hk
    simp [place?, List.lookup_append, List.lookup_cons, hk, hb]

lemma getElem?_concat_iff {s t : Suppression} {before : List Suppression} {place : ℕ} :
    (before ++ [s])[place]? = some t ↔
      before[place]? = some t ∨ place = before.length ∧ s = t := by
  rcases lt_trichotomy place before.length with hlt | rfl | hgt
  · simp [List.getElem?_append_left hlt, hlt.ne]
  · simp
  · have hnone : before[place]? = none := List.getElem?_eq_none hgt.le
    have hnone' : (before ++ [s])[place]? = none := List.getElem?_eq_none (by simpa using hgt)
    simp [hnone, hnone', hgt.ne']

lemma Consistent.start (h : r.Consistent) : (r.start kind line).1.Consistent := by
  by_cases hk : kind ∈ r.openKinds
  · rwa [start_of_mem hk]
  intro k place
  rw [place?_start hk, start_of_not_mem hk]
  simp only [getElem?_concat_iff, Suppression.mk.injEq]
  by_cases he : k = kind
  · subst he
    have hnone : ¬ ∃ start, r.suppressions[place]? = some ⟨k, start, none⟩ := by
      rw [← h k place, not_mem_openKinds.1 hk]
      simp
    simp only [not_exists] at hnone
    simp [hnone, eq_comm]
  · simp [he, Ne.symm he, h k place]

lemma place?_stop :
    (r.stop kind line).1.place? k = if k = kind then none else r.place? k := by
  unfold stop
  split
  · exact lookup_filter_ne _
  · rename_i hp
    by_cases hk : k = kind
    · simp [hk, hp]
    · simp [hk]

lemma mem_openKinds_stop : k ∈ (r.stop kind line).1.openKinds ↔ k ∈ r.openKinds ∧ k ≠ kind := by
  rw [mem_openKinds, place?_stop, mem_openKinds]
  by_cases hk : k = kind <;> simp [hk]

lemma Consistent.suppressions_stop (h : r.Consistent) :
    (r.stop kind line).1.suppressions = r.suppressions.map (closed [kind] line) := by
  have hother : ∀ (place : ℕ) (s : Suppression), r.suppressions[place]? = some s →
      r.place? kind ≠ some place → closed [kind] line s = s := by
    intro place s hs hp
    refine if_neg fun hc => hp ((h kind place).2 ⟨s.start, ?_⟩)
    obtain ⟨kind', start, stop⟩ := s
    obtain ⟨hk, rfl⟩ : kind' = kind ∧ stop = none := by simpa using hc
    rw [hs, hk]
  apply List.ext_getElem?
  intro place
  rw [List.getElem?_map]
  unfold Record.stop
  split
  · rename_i other hp
    by_cases he : other = place
    · subst he
      obtain ⟨start, hs⟩ := (h kind other).1 hp
      simp [hs, closed]
    · rw [List.getElem?_modify_ne _ _ he]
      cases hs : r.suppressions[place]? with
      | none => rfl
      | some s => simp [hother place s hs (by simpa [hp] using he)]
  · rename_i hp
    cases hs : r.suppressions[place]? with
    | none => rfl
    | some s => simp [hother place s hs (by simp [hp])]

lemma Consistent.stop (h : r.Consistent) : (r.stop kind line).1.Consistent := by
  intro k place
  rw [place?_stop, h.suppressions_stop, List.getElem?_map]
  simp only [Option.map_eq_some_iff, closed_eq_open]
  by_cases hk : k = kind
  · simp [hk]
  · simp [hk, h k place]

/-! ### What a line does -/

/-- A line asks to ignore the lines after it. -/
def AsksNext (text : Text) (count : UInt32) : Prop :=
  ∃ command unknown, Command.ofLine? text = some command ∧
    command.read = .ok ⟨.next count, unknown⟩

def ignoreNext (r : Record) (count line : UInt32) : Record :=
  { r with suppressions :=
      r.suppressions ++ [⟨.lines, nextLine line, some (lineBelow line count)⟩] }

def startAll (r : Record) (kinds : List Kind) (line : UInt32) : Record :=
  kinds.foldl (fun r kind => (r.start kind line).1) r

def stopAll (r : Record) (kinds : List Kind) (line : UInt32) : Record :=
  kinds.foldl (fun r kind => (r.stop kind line).1) r

lemma forEach_record (act : Record → Kind → Record × List Event) (r : Record)
    (kinds : List Kind) :
    (r.forEach act kinds).1 = kinds.foldl (fun r kind => (act r kind).1) r := by
  induction kinds generalizing r with
  | nil => rfl
  | cons kind kinds ih => exact ih _

lemma stopLatest_record (r : Record) (line : UInt32) :
    ∃ kinds, (r.stopLatest line).1 = r.stopAll kinds line := by
  unfold stopLatest
  split
  · rename_i kind _
    exact ⟨[kind], rfl⟩
  · exact ⟨[], rfl⟩

/-- All that a line can do to a record. -/
lemma readLine_record (r : Record) (text : Text) (line : UInt32) :
    (∃ count, AsksNext text count ∧ (r.readLine text line).1 = r.ignoreNext count line) ∨
      (¬ ∃ count, AsksNext text count) ∧
        ∃ kinds, (r.readLine text line).1 = r.startAll kinds line ∨
          (r.readLine text line).1 = r.stopAll kinds line := by
  have hquiet : (¬ ∃ count, AsksNext text count) → (r.readLine text line).1 = r →
      (¬ ∃ count, AsksNext text count) ∧
        ∃ kinds, (r.readLine text line).1 = r.startAll kinds line ∨
          (r.readLine text line).1 = r.stopAll kinds line :=
    fun h he => ⟨h, [], Or.inl he⟩
  cases hc : Command.ofLine? text with
  | none => exact Or.inr (hquiet (by simp [AsksNext, hc]) (by simp [readLine, hc]))
  | some command =>
    cases hr : command.read with
    | error e =>
      refine Or.inr (hquiet (by simp [AsksNext, hc, hr]) ?_)
      cases e <;> simp [readLine, hc, hr]
    | ok reading =>
      obtain ⟨directive, unknown⟩ := reading
      have hline : (r.readLine text line).1 = (r.obey directive line).1 := by
        simp [readLine, hc, hr]
      rw [hline]
      cases directive with
      | next count => exact Or.inl ⟨count, ⟨command, unknown, hc, hr⟩, rfl⟩
      | start kinds =>
        refine Or.inr ⟨by simp [AsksNext, hc, hr], kinds, Or.inl ?_⟩
        exact forEach_record _ r kinds
      | stop kinds =>
        refine Or.inr ⟨by simp [AsksNext, hc, hr], kinds, Or.inr ?_⟩
        exact forEach_record _ r kinds
      | stopLatest =>
        obtain ⟨kinds, hk⟩ := r.stopLatest_record line
        exact Or.inr ⟨by simp [AsksNext, hc, hr], kinds, Or.inr hk⟩

section

variable {kinds : List Kind}

lemma Consistent.startAll (h : r.Consistent) : (r.startAll kinds line).Consistent := by
  induction kinds generalizing r with
  | nil => exact h
  | cons kind kinds ih => exact ih h.start

lemma Consistent.stopAll (h : r.Consistent) : (r.stopAll kinds line).Consistent := by
  induction kinds generalizing r with
  | nil => exact h
  | cons kind kinds ih => exact ih h.stop

lemma Consistent.ignoreNext {count : UInt32} (h : r.Consistent) :
    (r.ignoreNext count line).Consistent := by
  intro kind place
  have hplace : (r.ignoreNext count line).place? kind = r.place? kind := rfl
  rw [hplace, h kind place, Record.ignoreNext]
  simp [getElem?_concat_iff]

lemma mem_openKinds_startAll :
    k ∈ (r.startAll kinds line).openKinds ↔ k ∈ r.openKinds ∨ k ∈ kinds := by
  induction kinds generalizing r with
  | nil => simp [startAll]
  | cons kind kinds ih =>
    rw [startAll, List.foldl_cons, ← startAll, ih, mem_openKinds_start, List.mem_cons, or_assoc]

lemma mem_openKinds_stopAll :
    k ∈ (r.stopAll kinds line).openKinds ↔ k ∈ r.openKinds ∧ k ∉ kinds := by
  induction kinds generalizing r with
  | nil => simp [stopAll]
  | cons kind kinds ih =>
    rw [stopAll, List.foldl_cons, ← stopAll, ih, mem_openKinds_stop, List.mem_cons, not_or,
      and_assoc]

lemma suppressions_startAll (r : Record) (kinds : List Kind) (line : UInt32) :
    ∃ new, (r.startAll kinds line).suppressions = r.suppressions ++ new ∧
      ∀ s ∈ new, s.start = nextLine line ∧ s.stop = none := by
  induction kinds generalizing r with
  | nil => exact ⟨[], by simp [startAll], by simp⟩
  | cons kind kinds ih =>
    obtain ⟨new, hnew, hopen⟩ := ih (r.start kind line).1
    rw [startAll, List.foldl_cons, ← startAll]
    by_cases hk : kind ∈ r.openKinds
    · rw [start_of_mem hk] at hnew ⊢
      exact ⟨new, hnew, hopen⟩
    · rw [start_of_not_mem hk] at hnew ⊢
      refine ⟨⟨kind, nextLine line, none⟩ :: new, by rw [hnew]; simp, ?_⟩
      rintro s (_ | ⟨_, hs⟩)
      · exact ⟨rfl, rfl⟩
      · exact hopen s hs

lemma Consistent.suppressions_stopAll (h : r.Consistent) (kinds : List Kind) (line : UInt32) :
    (r.stopAll kinds line).suppressions = r.suppressions.map (closed kinds line) := by
  induction kinds generalizing r with
  | nil => simp [Record.stopAll, closed_nil]
  | cons kind kinds ih =>
    rw [Record.stopAll, List.foldl_cons, ← Record.stopAll, ih h.stop, h.suppressions_stop,
      List.map_map]
    exact List.map_congr_left fun s _ => closed_closed

end

lemma Consistent.readLine {text : Text} (h : r.Consistent) :
    (r.readLine text line).1.Consistent := by
  rcases r.readLine_record text line with ⟨count, -, he⟩ | ⟨-, kinds, he | he⟩
  · exact he ▸ h.ignoreNext
  · exact he ▸ h.startAll
  · exact he ▸ h.stopAll

lemma readLines_append (r : Record) (first : ℕ) (lines more : List Text) :
    (r.readLines first (lines ++ more)).1 =
      ((r.readLines first lines).1.readLines (first + lines.length) more).1 := by
  induction lines generalizing r first with
  | nil => rfl
  | cons text lines ih =>
    have he : first + (text :: lines).length = first + 1 + lines.length := by
      simp only [List.length_cons]
      omega
    rw [he]
    exact ih _ _

end LatexReview.Suppression.Record
