import Mathlib
import LatexReview.Proofs.Detex.Command

/-!
What the scan makes of single characters, of comments and of math.
-/

namespace LatexReview.Detex

/-- The characters that are not prose when they stand alone. -/
def markup : Text := "%\\{}$~".toList

namespace State

variable {s : State} {rest : Text}

/-! ### Characters and comments -/

/-- What a backslash and a character after it stand for, if that is no letter. -/
def symbolText (c : Char) : Text :=
  if c = '\\' ∨ c = ' ' then [' '] else if c ∈ escapable then [c] else []

lemma prose_char {c : Char} (h : c ∉ markup) : s.prose c = (s.enter .prose).emit c s.offset := by
  obtain ⟨h1, h2, h3, h4, h5, h6⟩ : c ≠ '%' ∧ c ≠ '\\' ∧ c ≠ '{' ∧ c ≠ '}' ∧ c ≠ '$' ∧ c ≠ '~' := by
    simpa [markup] using h
  unfold prose
  split
  case h_7 => rfl
  all_goals contradiction

lemma outcome_char {c : Char} (hs : s.phase = .prose) (h : c ∉ markup) :
    s.outcome (c :: rest) = (s.pass 1 [(c, s.offset)]).outcome rest := by
  have hstep : step s c = s.pass 1 [(c, s.offset)] := by
    simp [step, read, hs, prose_char h, enter, emit_eq_write, write, pass, advance]
  rw [outcome_cons, hstep]

lemma outcome_tie (hs : s.phase = .prose) :
    s.outcome ('~' :: rest) = (s.pass 1 [(' ', s.offset)]).outcome rest := by
  have h : step s '~' = s.pass 1 [(' ', s.offset)] := by
    simp [step, read, hs, prose, enter, emit_eq_write, write, pass, advance]
  rw [outcome_cons, h]

lemma outcome_symbol {c : Char} (hs : s.phase = .prose) (hl : Text.isLetter c = false)
    (hp : c ≠ '(') (hb : c ≠ '[') :
    s.outcome ('\\' :: c :: rest) =
      (s.pass 2 ((symbolText c).map (·, s.offset))).outcome rest := by
  have h : step (s.advance 1 (.escape s.offset)) c =
      s.pass 2 ((symbolText c).map (·, s.offset)) := by
    simp only [step, read, advance_phase, escape, hl, hp, hb, symbolText]
    split_ifs <;> simp_all [enter, emit_eq_write, write, pass, advance]
  rw [outcome_cons, step_backslash hs, outcome_cons, h]

lemma outcome_comment {body : Text} (hs : s.phase = .prose) (h : '\n' ∉ body) :
    s.outcome ('%' :: (body ++ '\n' :: rest)) =
      (s.pass (body.length + 2) [('\n', s.offset + body.length + 1)]).outcome rest := by
  have hopen : step s '%' = s.advance 1 .comment := by
    simp [step, read, hs, prose, enter, advance]
  have hstay : ∀ c ∈ body, ∀ m, read (s.advance m .comment) c = s.advance m .comment := by
    intro c hc m
    have : c ≠ '\n' := by rintro rfl; exact h hc
    simp [read, this]
  have hclose : step (s.advance (1 + body.length) .comment) '\n' =
      s.pass (1 + body.length + 1) [('\n', s.offset + (1 + body.length))] := by
    simp [step, read, prose, enter, emit_eq_write, write, pass, advance, Nat.add_assoc]
  rw [outcome_cons, hopen, outcome_append, run_stay hstay, outcome_cons, hclose]
  congr 2
  · omega
  · simp
    omega

/-! ### Braces and environments -/

lemma step_openBrace (hs : s.phase = .prose) :
    step s '{' = { s.pass 1 [] with braces := s.offset :: s.braces } := by
  simp [step, read, hs, prose, enter, pass, advance, write]

lemma step_closeBrace {start : Nat} {outer : List Nat} (hs : s.phase = .prose)
    (hb : s.braces = start :: outer) : step s '}' = { s.pass 1 [] with braces := outer } := by
  simp [step, read, hs, prose, hb, enter, pass, advance, write]

lemma outcome_group {body : Text} {pairs : List (Char × Nat)} (hs : s.phase = .prose)
    (hbody : ∀ t : State, t.phase = .prose → t.offset = s.offset + 1 →
      t.outcome (body ++ '}' :: rest) = (t.pass body.length pairs).outcome ('}' :: rest)) :
    s.outcome ('{' :: (body ++ '}' :: rest)) = (s.pass (body.length + 2) pairs).outcome rest := by
  rw [outcome_cons, step_openBrace hs, hbody _ rfl rfl, outcome_cons, step_closeBrace rfl rfl]
  congr 1
  simp [pass, advance, write]
  omega

lemma outcome_environment {name body : Text} {pairs : List (Char × Nat)} (hs : s.phase = .prose)
    (ho : '{' ∉ name) (hc : '}' ∉ name) (hm : name ∉ mathEnvironments)
    (hbody : ∀ t : State, t.phase = .prose →
      t.offset = s.offset + (command "begin".toList name).length →
      t.outcome (body ++ (command "end".toList name ++ rest)) =
        (t.pass body.length pairs).outcome (command "end".toList name ++ rest)) :
    s.outcome (command "begin".toList name ++ (body ++ (command "end".toList name ++ rest))) =
      (s.pass ((command "begin".toList name).length + body.length +
        (command "end".toList name).length) pairs).outcome rest := by
  rw [outcome_begin hs ho hc, openEnvironment, if_neg hm, hbody _ rfl rfl,
    outcome_end rfl ho hc]
  simp only [closeEnvironment, pass_environments, ↓reduceIte]
  congr 1
  simp [pass, advance, write, enter, Nat.add_assoc]

/-! ### Math -/

/-- Whether a text is made of characters other than dollar sign and backslash, and of pairs of
a backslash and any character. -/
def inlineMath : Text → Bool
  | [] => true
  | ['\\'] => false
  | '\\' :: _ :: rest => inlineMath rest
  | c :: rest => c ≠ '$' && inlineMath rest

lemma run_math {m : Text} (start n : Nat) (h : inlineMath m) :
    run (s.advance n (.math start)) m = s.advance (n + m.length) (.math start) := by
  fun_induction inlineMath m generalizing n with
  | case1 => rfl
  | case2 => simp at h
  | case3 c rest ih =>
    have hslash : step (s.advance n (.math start)) '\\' = s.advance (n + 1) (.mathEscape start) :=
      step_eq_advance (by simp [read, math])
    have hc : step (s.advance (n + 1) (.mathEscape start)) c =
        s.advance (n + 1 + 1) (.math start) :=
      step_eq_advance (by simp [read])
    rw [run_cons, hslash, run_cons, hc, ih _ h, List.length_cons, List.length_cons]
    congr 1
    omega
  | case4 c rest hone hpair ih =>
    have hc : c ≠ '\\' := by
      rintro rfl
      cases rest with
      | nil => exact hone rfl rfl
      | cons d rest => exact hpair d rest rfl rfl
    obtain ⟨hd, h⟩ : c ≠ '$' ∧ inlineMath rest := by simpa using h
    rw [run_cons, step_eq_advance (q := .math start) (by simp [read, math, hc, hd]), ih _ h,
      List.length_cons]
    congr 1
    omega

lemma step_dollar (hs : s.phase = .prose) : step s '$' = s.advance 1 (.dollar s.offset) := by
  simp [step, read, hs, prose, enter, advance]

lemma step_dollar_ne {c : Char} (n start : Nat) (hc : c ≠ '$') :
    step (s.advance n (.dollar start)) c = step (s.advance n (.math start)) c := by
  simp [step, read, hc, math, enter, advance]

lemma outcome_dollars {m : Text} (hs : s.phase = .prose) (hne : m ≠ []) (h : inlineMath m) :
    s.outcome ('$' :: (m ++ '$' :: rest)) = (s.pass (m.length + 2) []).outcome rest := by
  cases m with
  | nil => exact absurd rfl hne
  | cons c m =>
    have hc : c ≠ '$' := by
      rintro rfl
      simp [inlineMath] at h
    have hclose : step (s.advance (1 + (c :: m).length) (.math s.offset)) '$' =
        s.advance (1 + (c :: m).length + 1) .prose :=
      step_eq_advance (by simp [read, math])
    rw [outcome_cons, step_dollar hs, outcome_append, run_cons, step_dollar_ne _ _ hc, ← run_cons,
      run_math _ _ h, outcome_cons, hclose, advance_prose]
    congr 2
    omega

lemma run_skip {m : Text} (start n : Nat) (terminator passed : Text) (fault : Fault)
    (h : ∀ u, u <+: m → u ≠ [] → ¬ terminator <:+ passed.reverse ++ u) :
    run (s.advance n (.skip start terminator fault passed)) m =
      s.advance (n + m.length) (.skip start terminator fault (m.reverse ++ passed)) := by
  induction m generalizing n passed with
  | nil => rfl
  | cons c m ih =>
    have hc : ¬ terminator.reverse.isPrefixOf (c :: passed) := by
      have hfirst := h [c] (by simp) (by simp)
      rwa [← List.reverse_prefix, List.reverse_append, List.reverse_reverse,
        ← List.isPrefixOf_iff_prefix] at hfirst
    rw [run_cons, step_eq_advance (q := .skip start terminator fault (c :: passed))
      (by simp [read, skip, hc]), ih _ _ fun u hu hne => ?_]
    · simp only [List.length_cons, List.reverse_cons, List.append_assoc, List.singleton_append]
      congr 1
      omega
    · rw [List.reverse_cons, List.append_assoc]
      exact h (c :: u) (by simpa using hu) (by simp)

lemma outcome_skip {m terminator : Text} (start n : Nat) (fault : Fault) (hne : terminator ≠ [])
    (h : ¬ terminator <:+: m ++ terminator.dropLast) :
    (s.advance n (.skip start terminator fault [])).outcome (m ++ (terminator ++ rest)) =
      (s.pass (n + m.length + terminator.length) []).outcome rest := by
  obtain ⟨front, last, rfl⟩ : ∃ front last, terminator = front ++ [last] :=
    ⟨_, _, (List.dropLast_append_getLast hne).symm⟩
  rw [List.dropLast_concat] at h
  have hread : m ++ (front ++ [last] ++ rest) = m ++ front ++ last :: rest := by simp
  rw [hread, outcome_append, run_skip start n _ [] fault fun u hu _ hs =>
    h ((hs.isInfix).trans hu.isInfix), outcome_cons, step_eq_advance (q := .prose)
    (by simp [read, skip, List.isPrefixOf_iff_prefix, List.reverse_append]), advance_prose]
  congr 2
  simp
  omega

lemma not_infix_append_dropLast {m tail : Text} {c : Char} (hc : c ∉ tail)
    (h : ¬ c :: tail <:+: m) : ¬ c :: tail <:+: m ++ (c :: tail).dropLast := by
  rintro ⟨a, b, hab⟩
  have hlen := congrArg List.length hab
  rw [List.append_assoc] at hab
  obtain ⟨u, rfl, hu⟩ | ⟨u, rfl, -⟩ := List.append_eq_append_iff.1 hab
  · obtain ⟨v, rfl, -⟩ | ⟨v, hv, hd⟩ := List.append_eq_append_iff.1 hu
    · exact h ⟨a, v, by simp⟩
    · -- The terminator starts in `m` and ends beyond it, so it holds its own first character.
      rcases u with _ | ⟨d, u⟩
      · simp at hlen
        omega
      · obtain ⟨rfl, rfl⟩ : c = d ∧ tail = u ++ v := by simpa using hv
        rcases v with _ | ⟨x, v⟩
        · exact h ⟨a, [], by simp⟩
        · obtain ⟨rfl, -⟩ : c = x ∧ _ := by
            rw [List.dropLast_cons_of_ne_nil (by simp)] at hd
            simpa using hd
          simp at hc
  · simp at hlen
    omega

lemma not_infix_dollars {m : Text} (h : ¬ ['$', '$'] <:+: m) (hlast : m.getLast? ≠ some '$') :
    ¬ ['$', '$'] <:+: m ++ ['$'] := by
  rintro ⟨a, b, hab⟩
  rw [List.append_assoc] at hab
  obtain ⟨u, rfl, hu⟩ | ⟨u, rfl, hu⟩ := List.append_eq_append_iff.1 hab
  · rcases u with _ | ⟨c, _ | ⟨d, u⟩⟩
    · simp at hu
    · simp only [List.cons_append, List.cons.injEq] at hu
      exact hlast (by simp [← hu.1])
    · obtain ⟨rfl, rfl, -⟩ : '$' = c ∧ '$' = d ∧ b = u ++ ['$'] := by simpa using hu
      exact h ⟨a, u, by simp⟩
  · have := congrArg List.length hu
    simp at this
    omega

lemma outcome_delimited {c d : Char} {m : Text} {fault : Fault} (rest : Text)
    (hs : s.phase = .prose)
    (hcd : ∀ t : State, t.escape s.offset c = t.enter (.skip s.offset ['\\', d] fault []))
    (hd : d ≠ '\\') (h : ¬ ['\\', d] <:+: m) :
    s.outcome ('\\' :: c :: (m ++ (['\\', d] ++ rest))) =
      (s.pass (m.length + 4) []).outcome rest := by
  rw [outcome_cons, step_backslash hs, outcome_cons,
    step_eq_advance (q := .skip s.offset ['\\', d] fault []) (by simp [read, hcd]),
    outcome_skip _ _ _ (by simp) (not_infix_append_dropLast (by simpa using Ne.symm hd) h)]
  congr 2
  simp
  omega

lemma outcome_doubleDollars {m : Text} (rest : Text) (hs : s.phase = .prose)
    (h : ¬ ['$', '$'] <:+: m) (hlast : m.getLast? ≠ some '$') :
    s.outcome ('$' :: '$' :: (m ++ (['$', '$'] ++ rest))) =
      (s.pass (m.length + 4) []).outcome rest := by
  rw [outcome_cons, step_dollar hs, outcome_cons,
    step_eq_advance (q := .skip s.offset ['$', '$'] .unclosedDoubleDollar []) (by simp [read]),
    outcome_skip _ _ _ (by simp) (not_infix_dollars h hlast)]
  congr 2
  simp
  omega

lemma outcome_formula {name m : Text} (rest : Text) (hs : s.phase = .prose)
    (hn : name ∈ mathEnvironments) (h : ¬ command "end".toList name <:+: m) :
    s.outcome (command "begin".toList name ++ (m ++ (command "end".toList name ++ rest))) =
      (s.pass ((command "begin".toList name).length + m.length +
        (command "end".toList name).length) []).outcome rest := by
  obtain ⟨ho, hc, hslash⟩ := mathEnvironment_plain name hn
  have hterm : ¬ command "end".toList name <:+: m ++ (command "end".toList name).dropLast :=
    not_infix_append_dropLast (by simp [hslash]) h
  rw [outcome_begin hs ho hc, openEnvironment, if_pos hn, ← advance_prose, enter_advance,
    outcome_skip _ _ _ (by simp [command]) hterm]

end State

end LatexReview.Detex
