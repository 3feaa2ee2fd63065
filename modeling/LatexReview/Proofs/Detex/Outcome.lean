import Mathlib
import LatexReview.Detex.Basic

/-!
What a scan comes to on the rest of a source.

The scan reads character by character, so it may still be in the middle of a command where a
construct of the source ends. What it comes to on the rest does not show that: a scan that
has read a construct and one that has passed it in prose come to the same.
-/

namespace LatexReview.Detex

namespace State

/-- What the scan comes to when the rest of the source has been read. -/
def outcome (s : State) (rest : Text) : State := (run s rest).settle.enter .prose

/-- The scan some characters further, in the middle of something else. -/
def advance (s : State) (count : Nat) (phase : Phase) : State :=
  { s with offset := s.offset + count, phase }

/-- The scan with some characters written, each with its origin. -/
def write (s : State) (pairs : List (Char × Nat)) : State :=
  { s with out := s.out ++ pairs.toArray }

/-- The scan in prose, some characters further and with some characters written. -/
def pass (s : State) (count : Nat) (pairs : List (Char × Nat)) : State :=
  (s.advance count .prose).write pairs

variable (s : State)

@[simp] lemma advance_offset (n : Nat) (p : Phase) : (s.advance n p).offset = s.offset + n := rfl
@[simp] lemma advance_phase (n : Nat) (p : Phase) : (s.advance n p).phase = p := rfl
@[simp] lemma advance_out (n : Nat) (p : Phase) : (s.advance n p).out = s.out := rfl
@[simp] lemma advance_flaws (n : Nat) (p : Phase) : (s.advance n p).flaws = s.flaws := rfl
@[simp] lemma advance_braces (n : Nat) (p : Phase) : (s.advance n p).braces = s.braces := rfl
@[simp] lemma advance_environments (n : Nat) (p : Phase) :
    (s.advance n p).environments = s.environments := rfl

@[simp] lemma advance_advance (n m : Nat) (p q : Phase) :
    (s.advance n p).advance m q = s.advance (n + m) q := by
  simp [advance, Nat.add_assoc]

@[simp] lemma enter_advance (n : Nat) (p q : Phase) : (s.advance n p).enter q = s.advance n q :=
  rfl

lemma enter_eq_advance (p : Phase) : s.enter p = s.advance 0 p := rfl

lemma advance_zero_self {p : Phase} (h : s.phase = p) : s.advance 0 p = s := by
  subst h; rfl

@[simp] lemma pass_offset (n : Nat) (l : List (Char × Nat)) :
    (s.pass n l).offset = s.offset + n := rfl
@[simp] lemma pass_phase (n : Nat) (l : List (Char × Nat)) : (s.pass n l).phase = .prose := rfl
@[simp] lemma pass_out (n : Nat) (l : List (Char × Nat)) :
    (s.pass n l).out = s.out ++ l.toArray := rfl
@[simp] lemma pass_flaws (n : Nat) (l : List (Char × Nat)) : (s.pass n l).flaws = s.flaws := rfl
@[simp] lemma pass_braces (n : Nat) (l : List (Char × Nat)) :
    (s.pass n l).braces = s.braces := rfl
@[simp] lemma pass_environments (n : Nat) (l : List (Char × Nat)) :
    (s.pass n l).environments = s.environments := rfl

@[simp] lemma pass_pass (n m : Nat) (l k : List (Char × Nat)) :
    (s.pass n l).pass m k = s.pass (n + m) (l ++ k) := by
  simp [pass, advance, write, Nat.add_assoc, Array.append_assoc]

lemma advance_prose (n : Nat) : s.advance n .prose = s.pass n [] := by
  simp [pass, advance, write]

@[simp] lemma pass_enter (n : Nat) (l : List (Char × Nat)) :
    (s.pass n l).enter .prose = s.pass n l := rfl

/-! ### What does not depend on what the scan was in the middle of -/

lemma prose_advance (n : Nat) (p : Phase) (c : Char) :
    (s.advance n p).prose c = (s.pass n []).prose c := by
  rw [← advance_prose]; rfl

lemma argument_advance (n : Nat) (p : Phase) (use : Use) (c : Char) :
    (s.advance n p).argument use c = (s.pass n []).argument use c := by
  rw [← advance_prose]; rfl

lemma emit_eq_write (c : Char) (o : Nat) : s.emit c o = s.write [(c, o)] := by
  simp [emit, write]

lemma emitAll_eq_write (text : Text) (o : Nat) :
    s.emitAll text o = s.write (text.map (·, o)) := by
  induction text generalizing s with
  | nil => simp [emitAll, write]
  | cons c rest ih =>
    have h : s.emitAll (c :: rest) o = (s.emit c o).emitAll rest o := rfl
    rw [h, ih, emit_eq_write]
    simp [write]

/-! ### Offsets -/

@[simp] lemma enter_offset (p : Phase) : (s.enter p).offset = s.offset := rfl
@[simp] lemma emit_offset (c : Char) (o : Nat) : (s.emit c o).offset = s.offset := rfl
@[simp] lemma report_offset (o : Nat) (fault : Fault) : (s.report o fault).offset = s.offset := rfl
@[simp] lemma emitAll_offset (text : Text) (o : Nat) : (s.emitAll text o).offset = s.offset := by
  rw [emitAll_eq_write]; rfl

@[simp] lemma endName_offset (start : Nat) (name : Text) :
    (s.endName start name).offset = s.offset := by
  unfold endName
  cases Role.ofName name <;> simp

@[simp] lemma endGroup_offset (use : Use) (content : Text) :
    (s.endGroup use content).offset = s.offset := by
  unfold endGroup openEnvironment closeEnvironment
  split
  · rfl
  · split <;> rfl
  · split
    · rfl
    split
    · rfl
    split <;> rfl

@[simp] lemma prose_offset (c : Char) : (s.prose c).offset = s.offset := by
  unfold prose
  dsimp only
  split
  case h_4 => split <;> rfl
  all_goals rfl

@[simp] lemma resume_offset (c : Char) : (s.resume c).offset = s.offset := by
  unfold resume gap options argument
  split <;> repeat' split
  all_goals simp

lemma step_offset (c : Char) : (step s c).offset = s.offset + 1 := by
  change (read s c).offset + 1 = s.offset + 1
  congr 1
  unfold read
  cases s.phase with
  | prose => simp
  | comment => dsimp only; split_ifs <;> simp
  | escape start => dsimp only [escape]; split_ifs <;> simp
  | name start letters => dsimp only [name]; split_ifs <;> simp
  | gap => dsimp only [gap]; split_ifs <;> simp
  | options => dsimp only [options, argument]; split_ifs <;> simp
  | option start depth => dsimp only [option]; split_ifs <;> simp
  | argument use => dsimp only [argument]; split_ifs <;> simp
  | group use start depth content => dsimp only [group]; split_ifs <;> simp
  | dollar start => dsimp only [math]; split_ifs <;> simp
  | math start => dsimp only [math]; split_ifs <;> simp
  | mathEscape start => simp
  | skip start terminator fault passed => dsimp only [skip]; split_ifs <;> simp

lemma run_offset (text : Text) : (run s text).offset = s.offset + text.length := by
  induction text generalizing s with
  | nil => rfl
  | cons c text ih =>
    rw [run_cons, ih, step_offset, List.length_cons]
    omega

/-! ### Reading on -/

@[simp] lemma outcome_cons (c : Char) (rest : Text) :
    s.outcome (c :: rest) = (step s c).outcome rest := rfl

lemma outcome_append (a b : Text) : s.outcome (a ++ b) = (run s a).outcome b := by
  simp [outcome, run_append]

lemma detex_eq_outcome (source : Text) :
    detex source =
      { plain := (init.outcome source).out.toList.map (·.1)
        charMap := (init.outcome source).out.toList.map (some ·.2) ++ [some source.length]
        errors := ((init.outcome source).flaws.toList ++ (init.outcome source).openFlaws).map
          (·.place (.ofText source)) } := rfl

variable {s}

lemma outcome_nil (hs : s.phase = .prose) : s.outcome [] = s := by
  obtain ⟨offset, phase, out, flaws, braces, environments⟩ := s
  obtain rfl : phase = .prose := hs
  rfl

lemma outcome_congr {t : State} {rest : Text}
    (hr : ∀ c ∈ rest.head?, step s c = step t c)
    (hn : s.settle.enter .prose = t.settle.enter .prose) :
    s.outcome rest = t.outcome rest := by
  cases rest with
  | nil => exact hn
  | cons c rest => rw [outcome_cons, outcome_cons, hr c rfl]

lemma step_eq_advance {n : Nat} {p q : Phase} {c : Char}
    (h : read (s.advance n p) c = s.advance n q) :
    step (s.advance n p) c = s.advance (n + 1) q := by
  unfold step
  rw [h]
  rfl

lemma run_stay {p : Phase} {text : Text}
    (h : ∀ c ∈ text, ∀ m, read (s.advance m p) c = s.advance m p) (n : Nat) :
    run (s.advance n p) text = s.advance (n + text.length) p := by
  induction text generalizing n with
  | nil => rfl
  | cons c text ih =>
    rw [run_cons, step_eq_advance (h c (by simp) n), ih fun d hd => h d (by simp [hd])]
    simp [Nat.add_assoc, Nat.add_comm 1]

end State

end LatexReview.Detex
