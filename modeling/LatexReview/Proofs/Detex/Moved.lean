import Mathlib
import LatexReview.Proofs.Detex.Outcome

/-!
The scan does not look at its offsets.

It writes offsets down, and never asks which they are. So a scan whose offsets are all moved by
some function reads on as the scan does, with what it writes down moved alike, wherever the
function moves the next offset one further, too.
-/

namespace LatexReview.Detex

def Use.moved (f : ℕ → ℕ) : Use → Use
  | .ignored => .ignored
  | .opens start => .opens (f start)
  | .closes start => .closes (f start)

def Phase.moved (f : ℕ → ℕ) : Phase → Phase
  | .prose => .prose
  | .comment => .comment
  | .escape start => .escape (f start)
  | .name start letters => .name (f start) letters
  | .gap => .gap
  | .options => .options
  | .option opening depth => .option (f opening) depth
  | .argument use => .argument (use.moved f)
  | .group use opening depth content => .group (use.moved f) (f opening) depth content
  | .dollar start => .dollar (f start)
  | .math start => .math (f start)
  | .mathEscape start => .mathEscape (f start)
  | .skip start terminator fault passed => .skip (f start) terminator fault passed

def Flaw.moved (f : ℕ → ℕ) (flaw : Flaw) : Flaw := { flaw with offset := f flaw.offset }

namespace State

/-- The scan with its offsets moved, and with something written out before all it wrote. -/
def moved (f : ℕ → ℕ) (written : Array (Char × ℕ)) (s : State) : State where
  offset := f s.offset
  phase := s.phase.moved f
  out := written ++ s.out.map fun (c, origin) => (c, f origin)
  flaws := s.flaws.map (·.moved f)
  braces := s.braces.map f
  environments := s.environments.map fun (name, start) => (name, f start)

variable (f : ℕ → ℕ) (written : Array (Char × ℕ)) (s : State)

@[simp] lemma moved_phase : (s.moved f written).phase = s.phase.moved f := rfl

lemma emit_moved (c : Char) (origin : ℕ) :
    (s.moved f written).emit c (f origin) = (s.emit c origin).moved f written := by
  simp [emit, moved]

lemma emitAll_moved (text : Text) (origin : ℕ) :
    (s.moved f written).emitAll text (f origin) =
      (s.emitAll text origin).moved f written := by
  induction text generalizing s with
  | nil => rfl
  | cons c rest ih =>
    change ((s.moved f written).emit c (f origin)).emitAll rest (f origin) = _
    rw [emit_moved, ih]
    rfl

lemma report_moved (offset : ℕ) (fault : Fault) :
    (s.moved f written).report (f offset) fault =
      (s.report offset fault).moved f written := by
  simp [report, moved, Flaw.moved]

/-! ### Environments and commands -/

lemma openEnvironment_moved (name : Text) (start : ℕ) :
    (s.moved f written).openEnvironment name (f start) =
      (s.openEnvironment name start).moved f written := by
  unfold openEnvironment
  split_ifs <;> rfl

lemma closeEnvironment_moved (name : Text) (start : ℕ) :
    (s.moved f written).closeEnvironment name (f start) =
      (s.closeEnvironment name start).moved f written := by
  have hreport (fault : Fault) : ((s.moved f written).enter .prose).report (f start) fault =
      ((s.enter .prose).report start fault).moved f written :=
    report_moved f written (s.enter .prose) start fault
  have henvironments : (s.moved f written).environments =
      s.environments.map fun (name, start) => (name, f start) := rfl
  unfold closeEnvironment
  rw [henvironments]
  cases s.environments with
  | nil => exact hreport _
  | cons innermost outer =>
    obtain ⟨inner, opening⟩ := innermost
    rw [List.map_cons]
    dsimp only
    split_ifs
    · rfl
    · rw [hreport, List.dropWhile_map]
      simp only [Function.comp_def]
      cases outer.dropWhile (·.1 ≠ name) with
      | nil => rfl
      | cons found rest => rfl

lemma endName_moved (start : ℕ) (name : Text) :
    (s.moved f written).endName (f start) name = (s.endName start name).moved f written := by
  unfold endName
  cases Role.ofName name with
  | expands text => exact emitAll_moved f written (s.enter .prose) text start
  | _ => rfl

lemma endGroup_moved (use : Use) (content : Text) :
    (s.moved f written).endGroup (use.moved f) content =
      (s.endGroup use content).moved f written := by
  cases use with
  | ignored => rfl
  | opens start => exact openEnvironment_moved f written s content start
  | closes start => exact closeEnvironment_moved f written s content start

/-! ### One character -/

lemma prose_moved (c : Char) :
    (s.moved f written).prose c = (s.prose c).moved f written := by
  unfold prose
  dsimp only
  split
  · rfl
  · rfl
  · rfl
  · have hbraces : ((s.moved f written).enter .prose).braces = s.braces.map f := rfl
    have hprose : (s.enter .prose).braces = s.braces := rfl
    rw [hbraces, hprose]
    cases s.braces with
    | nil => exact report_moved f written (s.enter .prose) s.offset _
    | cons opening outer => rfl
  · rfl
  · exact emit_moved f written (s.enter .prose) _ s.offset
  · exact emit_moved f written (s.enter .prose) _ s.offset

lemma gap_moved (c : Char) : (s.moved f written).gap c = (s.gap c).moved f written := by
  unfold gap
  split_ifs
  · rfl
  · exact prose_moved f written s c

lemma argument_moved (use : Use) (c : Char) :
    (s.moved f written).argument (use.moved f) c = (s.argument use c).moved f written := by
  unfold argument
  split_ifs
  · rfl
  · rfl
  · exact prose_moved f written s c

lemma options_moved (c : Char) :
    (s.moved f written).options c = (s.options c).moved f written := by
  unfold options
  split_ifs
  · rfl
  · exact argument_moved f written s .ignored c

lemma resume_moved (c : Char) :
    (s.moved f written).resume c = (s.resume c).moved f written := by
  unfold resume
  rw [moved_phase]
  cases s.phase with
  | gap => exact gap_moved f written s c
  | options => exact options_moved f written s c
  | argument use => exact argument_moved f written s use c
  | _ => exact prose_moved f written s c

lemma escape_moved (start : ℕ) (c : Char) :
    (s.moved f written).escape (f start) c = (s.escape start c).moved f written := by
  unfold escape
  dsimp only
  split_ifs
  · rfl
  · rfl
  · rfl
  · exact emit_moved f written (s.enter .prose) _ start
  · exact emit_moved f written (s.enter .prose) _ start
  · rfl

lemma name_moved (start : ℕ) (letters : Text) (c : Char) :
    (s.moved f written).name (f start) letters c =
      (s.name start letters c).moved f written := by
  unfold name
  split_ifs
  · rfl
  · exact endName_moved f written s start _
  · rw [endName_moved, resume_moved]

lemma option_moved (opening depth : ℕ) (c : Char) :
    (s.moved f written).option (f opening) depth c =
      (s.option opening depth c).moved f written := by
  unfold option
  split_ifs <;> rfl

lemma group_moved (use : Use) (opening depth : ℕ) (content : Text) (c : Char) :
    (s.moved f written).group (use.moved f) (f opening) depth content c =
      (s.group use opening depth content c).moved f written := by
  unfold group
  split_ifs
  · rfl
  · exact endGroup_moved f written s use _
  · rfl
  · rfl

lemma math_moved (start : ℕ) (c : Char) :
    (s.moved f written).math (f start) c = (s.math start c).moved f written := by
  unfold math
  split_ifs <;> rfl

lemma skip_moved (start : ℕ) (terminator : Text) (fault : Fault) (passed : Text) (c : Char) :
    (s.moved f written).skip (f start) terminator fault passed c =
      (s.skip start terminator fault passed c).moved f written := by
  unfold skip
  dsimp only
  split_ifs <;> rfl

lemma read_moved (c : Char) : read (s.moved f written) c = (read s c).moved f written := by
  unfold read
  rw [moved_phase]
  cases s.phase with
  | prose => exact prose_moved f written s c
  | comment =>
    dsimp only [Phase.moved]
    split_ifs
    · exact prose_moved f written s c
    · rfl
  | escape start => exact escape_moved f written s start c
  | name start letters => exact name_moved f written s start letters c
  | gap => exact gap_moved f written s c
  | options => exact options_moved f written s c
  | option opening depth => exact option_moved f written s opening depth c
  | argument use => exact argument_moved f written s use c
  | group use opening depth content => exact group_moved f written s use opening depth content c
  | dollar start =>
    dsimp only [Phase.moved]
    split_ifs
    · rfl
    · exact math_moved f written s start c
  | math start => exact math_moved f written s start c
  | mathEscape start => rfl
  | skip start terminator fault passed =>
    exact skip_moved f written s start terminator fault passed c

/-- **One character** is read as before, where the next offset is one further. -/
lemma step_moved {f : ℕ → ℕ} {s : State} (h : f (s.offset + 1) = f s.offset + 1) (c : Char) :
    step (s.moved f written) c = (step s c).moved f written := by
  have hoffset : (read s c).offset = s.offset := Nat.succ.inj (s.step_offset c)
  unfold step
  rw [read_moved]
  simp [moved, hoffset, h]

/-! ### The end of the source -/

lemma settle_moved : (s.moved f written).settle = s.settle.moved f written := by
  unfold settle
  rw [moved_phase]
  cases s.phase with
  | name start letters => exact endName_moved f written s start _
  | option opening depth => exact report_moved f written s opening _
  | group use opening depth content => exact report_moved f written s opening _
  | dollar start | math start | mathEscape start | skip start terminator fault passed =>
    exact report_moved f written s start _
  | _ => rfl

lemma openFlaws_moved :
    (s.moved f written).openFlaws = s.openFlaws.map (·.moved f) := by
  simp [openFlaws, moved, Flaw.moved, List.map_reverse, Function.comp_def]

end State

end LatexReview.Detex
