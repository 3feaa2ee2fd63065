import Mathlib
import LatexReview.Proofs.Detex.Outcome

/-!
What the scan makes of a command: of its name, of the blanks after it, and of its arguments.
Each lemma says what the scan comes to on a text that starts with one of them.
-/

namespace LatexReview.Detex

/-! ### Roles of commands -/

/-- The commands that are more than words. -/
def reserved : List Text :=
  ["begin".toList, "end".toList] ++ expansions.map (·.1) ++ skippingCommands

lemma ofName_expansion : ∀ e ∈ expansions, Role.ofName e.1 = .expands e.2 := by
  simp [expansions, Role.ofName, List.lookup]

lemma lookup_expansions {name : Text} (h : name ∉ expansions.map (·.1)) :
    expansions.lookup name = none := by
  rw [List.lookup_eq_none_iff]
  intro e hm
  have hne : name ≠ e.1 := by
    rintro rfl
    exact h (List.mem_map_of_mem hm)
  simpa using hne

lemma skipping_disjoint :
    skippingCommands.Disjoint ("begin".toList :: "end".toList :: expansions.map (·.1)) := by
  simp [skippingCommands, expansions]

lemma ofName_skipping (name : Text) (h : name ∈ skippingCommands) :
    Role.ofName name = .skips := by
  have hplain : name ∉ "begin".toList :: "end".toList :: expansions.map (·.1) :=
    fun hm => skipping_disjoint h hm
  simp only [List.mem_cons, not_or] at hplain
  obtain ⟨hb, he, hx⟩ := hplain
  rw [Role.ofName, if_neg hb, if_neg he, lookup_expansions hx]
  exact if_pos h

lemma ofName_vanishes {name : Text} (h : name ∉ reserved) : Role.ofName name = .vanishes := by
  simp only [reserved, List.mem_append, List.mem_cons, not_or] at h
  obtain ⟨⟨⟨hb, he, -⟩, hx⟩, hs⟩ := h
  rw [Role.ofName, if_neg hb, if_neg he, lookup_expansions hx]
  exact if_neg hs

lemma expansion_letters : ∀ e ∈ expansions, e.1 ≠ [] ∧ ∀ c ∈ e.1, Text.isLetter c := by
  simp [expansions, Text.isLetter]

lemma skipping_letters :
    ∀ name ∈ skippingCommands, name ≠ [] ∧ ∀ c ∈ name, Text.isLetter c := by
  have h : (skippingCommands.all fun name => name ≠ [] && name.all Text.isLetter) := by cbv
  simpa using h

lemma mathEnvironment_plain :
    ∀ name ∈ mathEnvironments, '{' ∉ name ∧ '}' ∉ name ∧ '\\' ∉ name := by
  simp [mathEnvironments]

namespace State

variable {s : State} {rest : Text}

/-! ### Command names -/

/-- The scan is between two constructs, where the next character may yet belong to the
command before it. -/
def Resumable (s : State) : Prop := s.settle = s ∧ ∀ c, read s c = s.resume c

lemma resumable_endName (start : Nat) (name : Text) : (s.endName start name).Resumable := by
  unfold endName
  cases Role.ofName name <;>
    simp [Resumable, settle, read, resume, enter, emitAll_eq_write, write]

lemma endName_advance (n start : Nat) (p : Phase) (name : Text) :
    (s.advance n p).endName start name = (s.pass n []).endName start name := by
  unfold endName
  cases Role.ofName name <;> simp [emitAll_eq_write, enter, advance, pass, write]

lemma run_letters {letters : Text} (h : ∀ c ∈ letters, Text.isLetter c) (n start : Nat)
    (before : Text) :
    run (s.advance n (.name start before)) letters =
      s.advance (n + letters.length) (.name start (letters.reverse ++ before)) := by
  induction letters generalizing n before with
  | nil => rfl
  | cons c letters ih =>
    have hc : step (s.advance n (.name start before)) c =
        s.advance (n + 1) (.name start (c :: before)) :=
      step_eq_advance (by simp [read, name, h c (by simp)])
    rw [run_cons, hc, ih fun d hd => h d (by simp [hd])]
    simp [Nat.add_assoc, Nat.add_comm 1]

/-- What may follow a command name that has no star. -/
def EndsName (next : Option Char) : Prop := ∀ c ∈ next, Text.isLetter c = false ∧ c ≠ '*'

instance (next : Option Char) : Decidable (EndsName next) :=
  inferInstanceAs (Decidable (∀ c ∈ next, _))

lemma endsName_gap {gap : Text} (h : ∀ c ∈ gap, isGap c) (hne : gap ≠ []) :
    EndsName (gap ++ rest).head? := by
  rcases gap with _ | ⟨d, gap⟩
  · exact absurd rfl hne
  · intro c hc
    obtain rfl : d = c := by simpa using hc
    obtain rfl | rfl : d = ' ' ∨ d = '\t' := by simpa [isGap] using h d (by simp)
    all_goals decide

lemma outcome_name {letters : Text} (n start : Nat) (h : EndsName rest.head?) :
    (s.advance n (.name start letters)).outcome rest =
      ((s.pass n []).endName start letters.reverse).outcome rest := by
  obtain ⟨hsettle, hread⟩ := resumable_endName (s := s.pass n []) start letters.reverse
  refine outcome_congr (fun c hc => ?_) ?_
  · obtain ⟨hl, hstar⟩ := h c hc
    unfold step
    rw [hread]
    simp [read, name, hl, hstar, endName_advance]
  · rw [hsettle]
    simp [settle, endName_advance]

lemma step_star {letters : Text} (n start : Nat) :
    step (s.advance n (.name start letters)) '*' =
      (s.pass (n + 1) []).endName start (letters.reverse ++ ['*']) := by
  have hl : Text.isLetter '*' = false := by decide
  simp only [step, read, advance_phase, name, hl, Bool.false_eq_true, ↓reduceIte,
    List.reverse_cons, endName_advance]
  unfold endName
  cases Role.ofName (letters.reverse ++ ['*']) <;>
    simp [emitAll_eq_write, enter, advance, pass, write, Nat.add_assoc]

lemma step_backslash (hs : s.phase = .prose) :
    step s '\\' = s.advance 1 (.escape s.offset) := by
  simp [step, read, hs, prose, enter, advance]

lemma step_letter {c : Char} (hc : Text.isLetter c) (n start : Nat) :
    step (s.advance n (.escape start)) c = s.advance (n + 1) (.name start [c]) :=
  step_eq_advance (by simp [read, escape, hc])

lemma run_command {name : Text} (hs : s.phase = .prose) (hne : name ≠ [])
    (hl : ∀ c ∈ name, Text.isLetter c) :
    run s ('\\' :: name) = s.advance (name.length + 1) (.name s.offset name.reverse) := by
  cases name with
  | nil => exact absurd rfl hne
  | cons c letters =>
    rw [run_cons, step_backslash hs, run_cons, step_letter (hl c (by simp)),
      run_letters fun d hd => hl d (by simp [hd])]
    simp [Nat.add_comm, Nat.add_left_comm]

lemma outcome_command {name : Text} (hs : s.phase = .prose) (hne : name ≠ [])
    (hl : ∀ c ∈ name, Text.isLetter c) (hnext : EndsName rest.head?) :
    s.outcome ('\\' :: name ++ rest) =
      ((s.pass (name.length + 1) []).endName s.offset name).outcome rest := by
  rw [outcome_append, run_command hs hne hl, outcome_name _ _ hnext, List.reverse_reverse]

lemma outcome_starred {name : Text} (hs : s.phase = .prose) (hne : name ≠ [])
    (hl : ∀ c ∈ name, Text.isLetter c) :
    s.outcome ('\\' :: name ++ '*' :: rest) =
      ((s.pass (name.length + 2) []).endName s.offset (name ++ ['*'])).outcome rest := by
  rw [outcome_append, run_command hs hne hl, outcome_cons, step_star, List.reverse_reverse]

/-! ### Blanks, options and arguments -/

lemma outcome_gap {gap : Text} (n : Nat) (hgap : ∀ c ∈ gap, isGap c)
    (hnext : ∀ c ∈ rest.head?, isGap c = false) :
    (s.advance n .gap).outcome (gap ++ rest) = (s.pass (n + gap.length) []).outcome rest := by
  rw [outcome_append, run_stay fun c hc m => by simp [read, State.gap, hgap c hc]]
  refine outcome_congr (fun c hc => ?_) (by simp [settle, advance_prose])
  simp [step, read, State.gap, hnext c hc, prose_advance]

/-- Whether every opening sign has its closing one, where some are open before. -/
def nested (opening closing : Char) : Nat → Text → Bool
  | depth, [] => depth = 0
  | depth, c :: rest =>
    if c = opening then nested opening closing (depth + 1) rest
    else if c = closing then depth ≠ 0 && nested opening closing (depth - 1) rest
    else nested opening closing depth rest

lemma run_option {text : Text} (start depth n : Nat) (h : nested '[' ']' depth text) :
    run (s.advance n (.option start (depth + 1))) text =
      s.advance (n + text.length) (.option start 1) := by
  induction text generalizing depth n with
  | nil =>
    have hd : depth = 0 := by simpa [nested] using h
    subst hd; rfl
  | cons c text ih =>
    rw [run_cons, List.length_cons, Nat.add_comm text.length, ← Nat.add_assoc]
    unfold nested at h
    split_ifs at h with ho hc
    · rw [step_eq_advance (q := .option start (depth + 1 + 1)) (by simp [read, option, ho])]
      exact ih _ _ h
    · obtain ⟨hd, h⟩ : depth ≠ 0 ∧ nested '[' ']' (depth - 1) text := by simpa using h
      obtain ⟨k, rfl⟩ := Nat.exists_eq_succ_of_ne_zero hd
      rw [step_eq_advance (q := .option start (k + 1)) (by simp [read, option, hc])]
      exact ih _ _ h
    · rw [step_eq_advance (q := .option start (depth + 1)) (by simp [read, option, ho, hc])]
      exact ih _ _ h

lemma run_group {text : Text} (use : Use) (start depth n : Nat) (before : Text)
    (h : nested '{' '}' depth text) :
    run (s.advance n (.group use start (depth + 1) before)) text =
      s.advance (n + text.length) (.group use start 1 (text.reverse ++ before)) := by
  induction text generalizing depth n before with
  | nil =>
    have hd : depth = 0 := by simpa [nested] using h
    subst hd; rfl
  | cons c text ih =>
    rw [run_cons, List.length_cons, Nat.add_comm text.length, ← Nat.add_assoc,
      List.reverse_cons, List.append_assoc]
    unfold nested at h
    split_ifs at h with ho hc
    · rw [step_eq_advance (q := .group use start (depth + 1 + 1) (c :: before))
        (by simp [read, group, ho])]
      exact ih _ _ _ h
    · obtain ⟨hd, h⟩ : depth ≠ 0 ∧ nested '{' '}' (depth - 1) text := by simpa using h
      obtain ⟨k, rfl⟩ := Nat.exists_eq_succ_of_ne_zero hd
      rw [step_eq_advance (q := .group use start (k + 1) (c :: before))
        (by simp [read, group, hc])]
      exact ih _ _ _ h
    · rw [step_eq_advance (q := .group use start (depth + 1) (c :: before))
        (by simp [read, group, ho, hc])]
      exact ih _ _ _ h

lemma nested_of_not_mem {opening closing : Char} {text : Text} (ho : opening ∉ text)
    (hc : closing ∉ text) : nested opening closing 0 text := by
  induction text with
  | nil => rfl
  | cons c text ih =>
    simp only [List.mem_cons, not_or] at ho hc
    simp [nested, Ne.symm ho.1, Ne.symm hc.1, ih ho.2 hc.2]

/-- Optional arguments, as they stand after a command. -/
def renderOptions (options : List Text) : Text := options.flatMap fun o => '[' :: o ++ [']']

lemma outcome_options {options : List Text} (n : Nat) (h : ∀ o ∈ options, nested '[' ']' 0 o) :
    (s.advance n .options).outcome (renderOptions options ++ rest) =
      (s.advance (n + (renderOptions options).length) .options).outcome rest := by
  induction options generalizing n with
  | nil => rfl
  | cons o options ih =>
    have hopen : step (s.advance n .options) '[' =
        s.advance (n + 1) (.option (s.offset + n) (0 + 1)) :=
      step_eq_advance (by simp [read, State.options])
    have hclose : step (s.advance (n + 1 + o.length) (.option (s.offset + n) 1)) ']' =
        s.advance (n + 1 + o.length + 1) .options :=
      step_eq_advance (by simp [read, option])
    have hr : renderOptions (o :: options) ++ rest =
        '[' :: (o ++ ']' :: (renderOptions options ++ rest)) := by simp [renderOptions]
    rw [hr, outcome_cons, hopen, outcome_append, run_option _ _ _ (h o (by simp)), outcome_cons,
      hclose, ih _ fun o ho => h o (by simp [ho])]
    congr 2
    simp [renderOptions]
    omega

lemma outcome_no_option (n : Nat) (hnext : ∀ c ∈ rest.head?, c ≠ '[') :
    (s.advance n .options).outcome rest = (s.advance n (.argument .ignored)).outcome rest := by
  refine outcome_congr (fun c hc => ?_) rfl
  simp [step, read, State.options, hnext c hc, argument_advance]

lemma step_group_end (use : Use) (start n : Nat) (content : Text) :
    step (s.advance n (.group use start 1 content)) '}' =
      (s.pass (n + 1) []).endGroup use content.reverse := by
  cases use with
  | ignored => simp [step, read, group, endGroup, enter, advance, pass, write, Nat.add_assoc]
  | opens o =>
    by_cases hm : content.reverse ∈ mathEnvironments <;>
      simp [step, read, group, endGroup, openEnvironment, hm, enter, advance, pass, write,
        Nat.add_assoc]
  | closes o =>
    simp only [step, read, group, endGroup, closeEnvironment, advance_phase, advance_environments,
      pass_environments]
    rcases s.environments with _ | ⟨⟨inner, opening⟩, outer⟩
    · simp [enter, report, advance, pass, write, Nat.add_assoc]
    · by_cases hi : inner = content.reverse
      · simp [hi, enter, advance, pass, write, Nat.add_assoc]
      · rcases hd : outer.dropWhile (fun e => !decide (e.1 = content.reverse)) with
          _ | ⟨e, outer'⟩ <;>
          simp [hi, enter, report, advance, pass, write, Nat.add_assoc, hd]

lemma outcome_argument {gap content : Text} (use : Use) (n : Nat) (hgap : ∀ c ∈ gap, isGap c)
    (hc : nested '{' '}' 0 content) :
    (s.advance n (.argument use)).outcome (gap ++ '{' :: (content ++ '}' :: rest)) =
      ((s.pass (n + gap.length + content.length + 2) []).endGroup use content).outcome rest := by
  have hopen : step (s.advance (n + gap.length) (.argument use)) '{' =
      s.advance (n + gap.length + 1) (.group use (s.offset + (n + gap.length)) (0 + 1) []) :=
    step_eq_advance (by simp [read, argument, isGap])
  rw [outcome_append, run_stay fun c hc m => by simp [read, argument, hgap c hc], outcome_cons,
    hopen, outcome_append, run_group _ _ _ _ _ hc, outcome_cons, step_group_end]
  simp only [List.append_nil, List.reverse_reverse]
  congr 3
  omega

lemma outcome_no_argument {gap : Text} (use : Use) (n : Nat) (hgap : ∀ c ∈ gap, isGap c)
    (hnext : ∀ c ∈ rest.head?, isGap c = false ∧ c ≠ '{') :
    (s.advance n (.argument use)).outcome (gap ++ rest) =
      (s.pass (n + gap.length) []).outcome rest := by
  rw [outcome_append, run_stay fun c hc m => by simp [read, argument, hgap c hc]]
  refine outcome_congr (fun c hc => ?_) (by simp [settle, advance_prose])
  obtain ⟨hg, hb⟩ := hnext c hc
  simp [step, read, argument, hg, hb, prose_advance]

lemma outcome_named {verb name : Text} (use : Use) (hs : s.phase = .prose) (hne : verb ≠ [])
    (hl : ∀ c ∈ verb, Text.isLetter c) (ho : '{' ∉ name) (hc : '}' ∉ name)
    (hrole : ∀ t : State, t.endName s.offset verb = t.enter (.argument use)) :
    s.outcome (command verb name ++ rest) =
      ((s.pass (command verb name).length []).endGroup use name).outcome rest := by
  have hr : command verb name ++ rest = '\\' :: verb ++ ([] ++ '{' :: (name ++ '}' :: rest)) := by
    simp [command]
  have hbrace : EndsName (some '{') := by simp [EndsName, Text.isLetter]
  rw [hr, outcome_command hs hne hl (by exact hbrace), hrole, enter_eq_advance,
    outcome_argument _ _ (by simp) (nested_of_not_mem ho hc), pass_pass]
  congr 3
  simp [command]
  omega

lemma outcome_begin {name : Text} (hs : s.phase = .prose) (ho : '{' ∉ name) (hc : '}' ∉ name) :
    s.outcome (command "begin".toList name ++ rest) =
      ((s.pass (command "begin".toList name).length []).openEnvironment name s.offset).outcome
        rest :=
  outcome_named (.opens s.offset) hs (by simp) (by simp [Text.isLetter]) ho hc fun _ => rfl

lemma outcome_end {name : Text} (hs : s.phase = .prose) (ho : '{' ∉ name) (hc : '}' ∉ name) :
    s.outcome (command "end".toList name ++ rest) =
      ((s.pass (command "end".toList name).length []).closeEnvironment name s.offset).outcome
        rest :=
  outcome_named (.closes s.offset) hs (by simp) (by simp [Text.isLetter]) ho hc fun _ => rfl

end State

end LatexReview.Detex
