import Mathlib
import LatexReview.Proofs.Detex.Outcome
import LatexReview.Proofs.LineIndex

/-!
Where the structural errors of a source are reported.

At any time the scan holds on to some offsets: those of the faults reported, of the braces and
environments open, and of what it is in the middle of. A character adds its own offset to
them, once, and no other. So no two faults of a source are reported at one offset.
-/

namespace LatexReview.Detex

/-- Where the command whose argument is read may be reported. -/
def Use.marks : Use → Multiset ℕ
  | .ignored => 0
  | .opens start | .closes start => {start}

/-- Where what the scan is in the middle of may be reported. -/
def Phase.marks : Phase → Multiset ℕ
  | .prose | .comment | .gap | .options => 0
  | .escape start | .name start _ | .dollar start | .math start | .mathEscape start => {start}
  | .option opening _ => {opening}
  | .argument use => use.marks
  | .group use opening _ _ => opening ::ₘ use.marks
  | .skip start _ _ _ => {start}

namespace State

/-- Where faults are reported, if nothing more is opened or closed. -/
def faults (s : State) : Multiset ℕ :=
  ↑(s.flaws.toList.map (·.offset)) + ↑s.braces + ↑(s.environments.map (·.2))

/-- Where faults are or may be reported. -/
def marks (s : State) : Multiset ℕ := s.phase.marks + s.faults

variable (s : State)

@[simp] lemma faults_enter (p : Phase) : (s.enter p).faults = s.faults := rfl

@[simp] lemma faults_report (o : ℕ) (fault : Fault) :
    (s.report o fault).faults = o ::ₘ s.faults := by
  have hflaws : (↑((s.report o fault).flaws.toList.map (·.offset)) : Multiset ℕ) =
      o ::ₘ ↑(s.flaws.toList.map (·.offset)) := by
    rw [Multiset.cons_coe, Multiset.coe_eq_coe]
    simp [report]
  rw [faults, hflaws, Multiset.cons_add, Multiset.cons_add]
  rfl

@[simp] lemma marks_enter (p : Phase) : (s.enter p).marks = p.marks + s.faults := rfl

@[simp] lemma marks_emit (c : Char) (o : ℕ) : (s.emit c o).marks = s.marks := rfl

@[simp] lemma marks_emitAll (text : Text) (o : ℕ) : (s.emitAll text o).marks = s.marks := by
  rw [emitAll_eq_write]
  rfl

@[simp] lemma marks_report (o : ℕ) (fault : Fault) :
    (s.report o fault).marks = o ::ₘ s.marks := by
  change s.phase.marks + (s.report o fault).faults = _
  rw [faults_report, Multiset.add_cons]
  rfl

lemma faults_le_marks : s.faults ≤ s.marks := Multiset.le_add_left _ _

/-! ### Environments and commands -/

lemma marks_openEnvironment_le (name : Text) (start : ℕ) :
    (s.openEnvironment name start).marks ≤ start ::ₘ s.faults := by
  unfold openEnvironment
  split
  · simp [Phase.marks]
  · simp [marks, faults, enter, Phase.marks, ← Multiset.cons_coe]

lemma marks_closed_le {braces : List ℕ} {environments : List (Text × ℕ)}
    (hb : braces.Sublist s.braces) (he : environments.Sublist s.environments) :
    ({ s with braces, environments } : State).marks ≤ s.marks := by
  have hbraces : (↑braces : Multiset ℕ) ≤ ↑s.braces := Multiset.coe_le.2 hb.subperm
  have henvironments : (↑(environments.map (·.2)) : Multiset ℕ) ≤
      ↑(s.environments.map (·.2)) := Multiset.coe_le.2 (he.map _).subperm
  exact add_le_add_right (add_le_add (add_le_add_right hbraces _) henvironments) _

lemma marks_closeEnvironment_le (name : Text) (start : ℕ) :
    (s.closeEnvironment name start).marks ≤ start ::ₘ s.faults := by
  unfold closeEnvironment
  split
  · simp [Phase.marks]
  rename_i inner opening outer henv
  have hprose : (s.enter .prose).marks = s.faults := by simp [Phase.marks]
  split
  · have houter : outer.Sublist (s.enter .prose).environments := by simp [enter, henv]
    calc
      _ ≤ (s.enter .prose).marks := marks_closed_le _ (.refl _) houter
      _ ≤ start ::ₘ s.faults := by rw [hprose]; exact Multiset.le_cons_self _ _
  · -- The fault of this end is reported, whatever stays open.
    have hreport : ((s.enter .prose).report start (.crossedEnvironment inner name)).marks =
        start ::ₘ s.faults := by rw [marks_report, hprose]
    rw [← hreport]
    dsimp only
    split
    · exact marks_closed_le _ (.refl _) (by simp [enter, report, henv])
    · rename_i found rest hfound
      have hrest : rest.Sublist outer := by
        refine (List.sublist_cons_self found rest).trans ?_
        rw [← hfound]
        exact List.dropWhile_sublist _
      refine marks_closed_le _ (.refl _) ?_
      simpa [enter, report, henv] using hrest.cons (inner, opening)

lemma marks_endGroup_le (use : Use) (content : Text) :
    (s.endGroup use content).marks ≤ use.marks + s.faults := by
  cases use with
  | ignored => exact le_rfl
  | opens start => exact s.marks_openEnvironment_le content start
  | closes start => exact s.marks_closeEnvironment_le content start

lemma marks_endName_le (start : ℕ) (name : Text) :
    (s.endName start name).marks ≤ start ::ₘ s.faults := by
  unfold endName
  cases Role.ofName name with
  | opens => simp [Phase.marks, Use.marks]
  | closes => simp [Phase.marks, Use.marks]
  | expands text => simp [Phase.marks, Multiset.le_cons_self]
  | skips => simp [Phase.marks, Multiset.le_cons_self]
  | vanishes => simp [Phase.marks, Multiset.le_cons_self]

/-! ### One character -/

lemma marks_prose_le (c : Char) : (s.prose c).marks ≤ s.offset ::ₘ s.faults := by
  have hprose : (s.enter .prose).marks = s.faults := by simp [Phase.marks]
  unfold prose
  dsimp only
  split
  · simp [Phase.marks, Multiset.le_cons_self]
  · simp [Phase.marks]
  · simp [marks, faults, enter, Phase.marks, ← Multiset.cons_coe]
  · split
    · simp [Phase.marks]
    · rename_i opening outer hbraces
      have houter : outer.Sublist (s.enter .prose).braces := by simp [hbraces]
      calc
        _ ≤ (s.enter .prose).marks := marks_closed_le _ houter (.refl _)
        _ ≤ s.offset ::ₘ s.faults := by rw [hprose]; exact Multiset.le_cons_self _ _
  · simp [Phase.marks]
  · simp [Phase.marks, Multiset.le_cons_self]
  · simp [Phase.marks, Multiset.le_cons_self]

lemma marks_gap_le (c : Char) : (s.gap c).marks ≤ s.offset ::ₘ s.faults := by
  unfold gap
  split
  · simp [Phase.marks, Multiset.le_cons_self]
  · exact s.marks_prose_le c

lemma marks_argument_le (use : Use) (c : Char) :
    (s.argument use c).marks ≤ s.offset ::ₘ (use.marks + s.faults) := by
  unfold argument
  split_ifs
  · simp [Phase.marks, Multiset.le_cons_self]
  · simp [Phase.marks]
  · exact (s.marks_prose_le c).trans
      (Multiset.cons_le_cons _ (Multiset.le_add_left _ _))

lemma marks_options_le (c : Char) : (s.options c).marks ≤ s.offset ::ₘ s.faults := by
  unfold options
  split
  · simp [Phase.marks]
  · simpa [Use.marks] using s.marks_argument_le .ignored c

lemma marks_resume_le (c : Char) : (s.resume c).marks ≤ s.offset ::ₘ s.marks := by
  have hfaults : s.offset ::ₘ s.faults ≤ s.offset ::ₘ s.marks :=
    Multiset.cons_le_cons _ s.faults_le_marks
  unfold resume
  split
  · exact (s.marks_gap_le c).trans hfaults
  · exact (s.marks_options_le c).trans hfaults
  · rename_i use hp
    have hmarks : s.marks = use.marks + s.faults := by rw [marks, hp]; rfl
    rw [hmarks]
    exact s.marks_argument_le use c
  · exact (s.marks_prose_le c).trans hfaults

lemma marks_escape_le (start : ℕ) (c : Char) : (s.escape start c).marks ≤ start ::ₘ s.faults := by
  unfold escape
  split_ifs <;> simp [Phase.marks, Multiset.le_cons_self]

lemma marks_name_le (start : ℕ) (letters : Text) (c : Char) :
    (s.name start letters c).marks ≤ s.offset ::ₘ start ::ₘ s.faults := by
  have hself : start ::ₘ s.faults ≤ s.offset ::ₘ start ::ₘ s.faults :=
    Multiset.le_cons_self _ _
  unfold name
  split_ifs
  · simpa [Phase.marks] using hself
  · exact (s.marks_endName_le _ _).trans hself
  · calc
      _ ≤ _ := marks_resume_le _ c
      _ ≤ s.offset ::ₘ start ::ₘ s.faults := by
        rw [endName_offset]
        exact Multiset.cons_le_cons _ (s.marks_endName_le _ _)

lemma marks_group_le (use : Use) (opening depth : ℕ) (content : Text) (c : Char) :
    (s.group use opening depth content c).marks ≤ opening ::ₘ (use.marks + s.faults) := by
  unfold group
  split_ifs
  · simp [Phase.marks]
  · exact (s.marks_endGroup_le use _).trans (Multiset.le_cons_self _ _)
  · simp [Phase.marks]
  · simp [Phase.marks]

lemma marks_math_le (start : ℕ) (c : Char) : (s.math start c).marks ≤ start ::ₘ s.faults := by
  unfold math
  split_ifs <;> simp [Phase.marks, Multiset.le_cons_self]

lemma marks_skip_le (start : ℕ) (terminator : Text) (fault : Fault) (passed : Text) (c : Char) :
    (s.skip start terminator fault passed c).marks ≤ start ::ₘ s.faults := by
  unfold skip
  dsimp only
  split <;> simp [Phase.marks, Multiset.le_cons_self]

lemma marks_option_le {opening depth : ℕ} (h : s.phase = .option opening depth) (c : Char) :
    (s.option opening depth c).marks ≤ opening ::ₘ s.faults := by
  unfold option
  split_ifs
  · simp [Phase.marks]
  · simp [Phase.marks, Multiset.le_cons_self]
  · simp [Phase.marks]
  · simp [marks, h, Phase.marks]

/-- **One character** adds its own offset, and no other. -/
lemma marks_step_le (c : Char) : (step s c).marks ≤ s.offset ::ₘ s.marks := by
  change (read s c).marks ≤ s.offset ::ₘ (s.phase.marks + s.faults)
  -- What is held where the scan is in the middle of something that is read on.
  have hkept : ∀ {start : ℕ} {t : State}, t.marks ≤ start ::ₘ s.faults →
      t.marks ≤ s.offset ::ₘ ({start} + s.faults) := by
    intro start t ht
    rw [Multiset.singleton_add]
    exact ht.trans (Multiset.le_cons_self _ _)
  unfold read
  cases hp : s.phase with
  | prose => simpa [Phase.marks] using s.marks_prose_le c
  | comment =>
    dsimp only
    split
    · simpa [Phase.marks] using s.marks_prose_le c
    · simp [marks, hp, Multiset.le_cons_self]
  | escape start => exact hkept (s.marks_escape_le start c)
  | name start letters =>
    simpa [Phase.marks] using s.marks_name_le start letters c
  | gap => simpa [Phase.marks] using s.marks_gap_le c
  | options => simpa [Phase.marks] using s.marks_options_le c
  | option opening depth => exact hkept (s.marks_option_le hp c)
  | argument use => exact s.marks_argument_le use c
  | group use opening depth content =>
    rw [Phase.marks, Multiset.cons_add]
    exact (s.marks_group_le use opening depth content c).trans (Multiset.le_cons_self _ _)
  | dollar start =>
    dsimp only
    split
    · exact hkept (by simp [Phase.marks])
    · exact hkept (s.marks_math_le start c)
  | math start => exact hkept (s.marks_math_le start c)
  | mathEscape start => exact hkept (by simp [Phase.marks])
  | skip start terminator fault passed =>
    exact hkept (s.marks_skip_le start terminator fault passed c)

lemma marks_run_le (source : Text) : (run init source).marks ≤ Multiset.range source.length := by
  induction source using List.reverseRecOn with
  | nil => exact le_rfl
  | append_singleton source c ih =>
    have hoffset : (run init source).offset = source.length := by simp [run_offset, init]
    rw [run_append, run_cons, run_nil, List.length_append, List.length_singleton,
      Multiset.range_succ]
    calc
      _ ≤ source.length ::ₘ (run init source).marks := hoffset ▸ marks_step_le _ c
      _ ≤ source.length ::ₘ Multiset.range source.length := Multiset.cons_le_cons _ ih

lemma faults_settle_le : s.settle.faults ≤ s.marks := by
  have hcut : ∀ {start : ℕ}, s.phase.marks = {start} → start ::ₘ s.faults = s.marks := by
    intro start hp
    rw [marks, hp, Multiset.singleton_add]
  unfold settle
  cases hp : s.phase with
  | name start letters =>
    calc
      _ ≤ _ := faults_le_marks _
      _ ≤ start ::ₘ s.faults := s.marks_endName_le _ _
      _ = s.marks := hcut (by rw [hp]; rfl)
  | option opening depth =>
    rw [faults_report, hcut (by rw [hp]; rfl)]
  | group use opening depth content =>
    rw [faults_report, marks, hp, Phase.marks, Multiset.cons_add]
    exact Multiset.cons_le_cons _ (Multiset.le_add_left _ _)
  | dollar start | math start | mathEscape start | skip start terminator fault passed =>
    rw [faults_report, hcut (by rw [hp]; rfl)]
  | _ => exact s.faults_le_marks

end State

/-! ### Errors -/

/-- The faults of a source, in the order in which they are reported. -/
def flaws (source : Text) : List Flaw :=
  let s := (run init source).settle
  s.flaws.toList ++ s.openFlaws

lemma errors_detex (source : Text) :
    (detex source).errors = (flaws source).map (·.place (.ofText source)) := rfl

lemma flaws_eq_outcome (source : Text) :
    flaws source = (init.outcome source).flaws.toList ++ (init.outcome source).openFlaws := rfl

lemma coe_offsets_flaws (source : Text) :
    (↑((flaws source).map (·.offset)) : Multiset ℕ) = (run init source).settle.faults := by
  rw [State.faults, flaws, Multiset.coe_add, Multiset.coe_add, Multiset.coe_eq_coe,
    List.map_append, List.append_assoc]
  refine List.Perm.append_left _ ?_
  simp only [State.openFlaws, List.map_append, List.map_map, Function.comp_def, List.map_id']
  exact (List.reverse_perm _).append ((List.reverse_perm _).map _)

lemma offsets_flaws_le (source : Text) :
    (↑((flaws source).map (·.offset)) : Multiset ℕ) ≤ Multiset.range source.length := by
  rw [coe_offsets_flaws]
  exact (State.faults_settle_le _).trans (State.marks_run_le source)

/-- **No two faults of a source are reported at one offset**, and none beyond its end. -/
lemma offsets_flaws (source : Text) :
    ((flaws source).map (·.offset)).Nodup ∧ ∀ flaw ∈ flaws source, flaw.offset < source.length := by
  have hle := offsets_flaws_le source
  refine ⟨?_, fun flaw hflaw => ?_⟩
  · exact Multiset.coe_nodup.1 (Multiset.nodup_of_le hle (Multiset.nodup_range _))
  · exact Multiset.mem_range.1 (Multiset.mem_of_le hle (List.mem_map_of_mem hflaw))

/-- **Every structural error has a position**, and no two of them have the same. -/
theorem positions_errors {source : Text} (h : source.length < 2 ^ 32 - 1) :
    (∀ e ∈ (detex source).errors, e.position.isSome) ∧
      ((detex source).errors.map (·.position)).Nodup := by
  obtain ⟨hnodup, hlt⟩ := offsets_flaws source
  rw [errors_detex, List.map_map]
  constructor
  · intro e he
    obtain ⟨flaw, hflaw, rfl⟩ := List.mem_map.1 he
    obtain ⟨p, hp, -⟩ := LineIndex.offset_position_ofText h (hlt flaw hflaw).le
    simp [Flaw.place, hp]
  · have hplaces : (flaws source).map (ParseError.position ∘ (·.place (.ofText source))) =
        ((flaws source).map (·.offset)).map (LineIndex.ofText source).position? := by
      rw [List.map_map]
      rfl
    rw [hplaces]
    refine hnodup.map_on fun o ho o' ho' heq => ?_
    obtain ⟨flaw, hflaw, rfl⟩ := List.mem_map.1 ho
    obtain ⟨flaw', hflaw', rfl⟩ := List.mem_map.1 ho'
    exact LineIndex.position_injOn h (hlt flaw hflaw).le (hlt flaw' hflaw').le heq

end LatexReview.Detex
