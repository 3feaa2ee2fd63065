import Mathlib
import LatexReview.Proofs.Detex.Flaws
import LatexReview.Proofs.Detex.Moved
import LatexReview.Proofs.Document.Comment
import LatexReview.Proofs.Translator

/-!
Comments are invisible to detexing.

The scan skips comments where it comes upon them, in prose. Cutting them works line by line, and
knows nothing of commands. Where no argument and no math is read, both agree: the scan of the
cut source follows that of the source itself. It lags behind in a comment, which leaves no trace
in it, not even that of having ended the name of a command; at the end of the line the two are
together again.
-/

namespace LatexReview.Detex

open Comment

/-- The command behind a backslash: a name, with its star, or a single character. -/
def commandBehind : Text → Text
  | [] => []
  | c :: rest => if Text.isLetter c then commandName (c :: rest) else [c]

/-- The commands of a text that is scanned from some mode on, without those in comments. -/
def commandsFrom : Mode → Text → List Text
  | _, [] => []
  | m, c :: rest =>
    if m = .escaped then commandBehind (c :: rest) :: commandsFrom (m.next c) rest
    else commandsFrom (m.next c) rest

/-- The commands of a source, without those in its comments. -/
def commands (source : Text) : List Text := commandsFrom .text source

/-- The commands that have something read behind them which is not prose. -/
def structuring : List Text :=
  ["begin".toList, "end".toList, "(".toList, "[".toList] ++ skippingCommands

/-- What a scan for comments is in the middle of, as far as the phases of prose tell. -/
def Phase.mode? : Phase → Option Mode
  | .prose | .gap | .name _ _ => some .text
  | .escape _ => some .escaped
  | .comment => some .comment
  | _ => none

/-- A phase of prose that a scan for comments has some mode in, and in which no name of a
structuring command is being read. -/
@[mk_iff]
structure Phase.Fits (m : Mode) (rest : Text) (p : Phase) : Prop where
  mode : p.mode? = some m
  name : ∀ start letters, p = .name start letters →
    letters.reverse ++ commandName rest ∉ structuring

variable {source before rest : Text} {c : Char} {m : Mode} {p : Phase}

lemma commandName_cons (hc : Text.isLetter c) (rest : Text) :
    commandName (c :: rest) = c :: commandName rest := by
  simp [commandName, hc]

lemma Phase.mode?_moved (f : ℕ → ℕ) (p : Phase) : (p.moved f).mode? = p.mode? := by
  cases p <;> rfl

lemma Phase.Fits.eq_comment_iff (h : p.Fits m rest) : p = .comment ↔ m = .comment := by
  have hmode := h.mode
  constructor
  · rintro rfl
    exact (Option.some.inj hmode).symm
  · rintro rfl
    cases p <;> simp_all [Phase.mode?]

lemma next_escaped (c : Char) : Mode.escaped.next c = .text := by simp [Mode.next]

lemma next_text (hslash : c ≠ '\\') (hpercent : c ≠ '%') : Mode.text.next c = .text := by
  simp [Mode.next, hslash, hpercent]

lemma role_of_not_structuring {name : Text} (h : name ∉ structuring) :
    (∃ text, Role.ofName name = .expands text) ∨ Role.ofName name = .vanishes := by
  simp only [structuring, List.mem_append, List.mem_cons, not_or] at h
  obtain ⟨⟨hbegin, hend, -⟩, hskips⟩ := h
  rw [Role.ofName, if_neg hbegin, if_neg hend]
  split
  · exact .inl ⟨_, rfl⟩
  · exact .inr (if_neg hskips)

namespace State

variable {s t : State}

/-! ### Modes of the scan -/

lemma prose_phase (hd : c ≠ '$') :
    (s.prose c).phase =
      if c = '%' then .comment else if c = '\\' then .escape s.offset else .prose := by
  unfold prose
  dsimp only
  split
  case h_4 => split <;> rfl
  case h_5 => exact absurd rfl hd
  case h_7 hpercent hslash _ _ _ _ => rw [if_neg hpercent, if_neg hslash]; rfl
  all_goals rfl

lemma fits_prose (hd : c ≠ '$') :
    (s.prose c).phase.Fits (Mode.text.next c) rest := by
  rw [prose_phase hd]
  by_cases hpercent : c = '%'
  · simp [hpercent, Phase.fits_iff, Phase.mode?, Mode.next]
  by_cases hslash : c = '\\'
  · simp [hslash, Phase.fits_iff, Phase.mode?, Mode.next]
  · simp [hpercent, hslash, Phase.fits_iff, Phase.mode?, next_text]

lemma fits_gap (hd : c ≠ '$') :
    (s.gap c).phase.Fits (Mode.text.next c) rest := by
  unfold gap
  split_ifs with hgap
  · obtain rfl | rfl : c = ' ' ∨ c = '\t' := by simpa [isGap] using hgap
    all_goals simp [enter, Phase.fits_iff, Phase.mode?, Mode.next]
  · exact fits_prose hd

lemma endName_phase {name : Text} (start : ℕ) (h : name ∉ structuring) :
    (s.endName start name).phase = .prose ∨ (s.endName start name).phase = .gap := by
  unfold endName
  obtain ⟨text, hrole⟩ | hrole := role_of_not_structuring h
  · left
    simp [hrole, emitAll_eq_write, write, enter]
  · right
    simp [hrole, enter]

lemma fits_endName {name : Text} (start : ℕ) (h : name ∉ structuring) :
    (s.endName start name).phase.Fits .text rest := by
  obtain hphase | hphase := endName_phase (s := s) start h
  all_goals simp [hphase, Phase.fits_iff, Phase.mode?]

lemma fits_resume {name : Text} (start : ℕ) (h : name ∉ structuring) (hd : c ≠ '$') :
    ((s.endName start name).resume c).phase.Fits (Mode.text.next c) rest := by
  obtain hphase | hphase := endName_phase (s := s) start h
  · simpa [resume, hphase] using fits_prose hd
  · simpa [resume, hphase] using fits_gap hd

lemma fits_escape (start : ℕ) (h : commandBehind (c :: rest) ∉ structuring) :
    (s.escape start c).phase.Fits .text rest := by
  unfold escape
  split_ifs with hl hparen hbracket
  · simpa [enter, Phase.fits_iff, Phase.mode?, commandBehind, hl, commandName_cons] using h
  · subst hparen
    exact absurd h (by simp [commandBehind, Text.isLetter, structuring])
  · subst hbracket
    exact absurd h (by simp [commandBehind, Text.isLetter, structuring])
  all_goals simp [enter, emit, Phase.fits_iff, Phase.mode?]

lemma fits_name {start : ℕ} {letters : Text} (hd : c ≠ '$')
    (h : letters.reverse ++ commandName (c :: rest) ∉ structuring) :
    (s.name start letters c).phase.Fits (Mode.text.next c) rest := by
  unfold name
  split_ifs with hl hstar
  · have hslash : c ≠ '\\' := by rintro rfl; simp [Text.isLetter] at hl
    have hpercent : c ≠ '%' := by rintro rfl; simp [Text.isLetter] at hl
    rw [commandName_cons hl] at h
    simpa [enter, Phase.fits_iff, Phase.mode?, next_text hslash hpercent] using h
  · subst hstar
    exact fits_endName start (by simpa [commandName, Text.isLetter] using h)
  · have hname : commandName (c :: rest) = [] := by simp [commandName, hl, hstar]
    exact fits_resume start (by simpa [hname] using h) hd

lemma fits_read (h : s.phase.Fits m (c :: rest)) (hd : c ≠ '$')
    (hw : ∀ w ∈ commandsFrom m (c :: rest), w ∉ structuring) :
    (read s c).phase.Fits (m.next c) rest := by
  obtain ⟨hm, hname⟩ := h
  unfold read
  cases hp : s.phase with
  | prose =>
    obtain rfl : Mode.text = m := by simpa [hp, Phase.mode?] using hm
    exact fits_prose hd
  | gap =>
    obtain rfl : Mode.text = m := by simpa [hp, Phase.mode?] using hm
    exact fits_gap hd
  | name start letters =>
    obtain rfl : Mode.text = m := by simpa [hp, Phase.mode?] using hm
    exact fits_name hd (hname start letters hp)
  | escape start =>
    obtain rfl : Mode.escaped = m := by simpa [hp, Phase.mode?] using hm
    rw [next_escaped]
    exact fits_escape start (hw _ (by simp [commandsFrom]))
  | comment =>
    obtain rfl : Mode.comment = m := by simpa [hp, Phase.mode?] using hm
    dsimp only
    split_ifs with hc
    · subst hc
      exact fits_prose hd
    · simp [hp, next_comment hc, Phase.fits_iff, Phase.mode?]
  | _ => simp [hp, Phase.mode?] at hm

lemma read_eq_prose_settle (hm : s.phase.mode? = some .text) (hc : c = '%' ∨ c = '\n') :
    read s c = s.settle.prose c := by
  obtain ⟨hletter, hstar, hgap, hbrace, hbracket⟩ : Text.isLetter c = false ∧ c ≠ '*' ∧
      isGap c = false ∧ c ≠ '{' ∧ c ≠ '[' := by
    rcases hc with rfl | rfl <;> decide
  unfold read settle
  cases hp : s.phase with
  | prose => rfl
  | gap => simp [gap, hgap]
  | name start letters =>
    simp only [name, hletter, Bool.false_eq_true, ↓reduceIte, hstar]
    unfold resume options argument gap
    split <;> simp [hgap, hbrace, hbracket]
  | _ => simp [hp, Phase.mode?] at hm

lemma settle_offset (hm : s.phase.mode? = some .text) : s.settle.offset = s.offset := by
  unfold settle
  cases hp : s.phase with
  | name start letters => exact endName_offset _ _ _
  | prose | gap => rfl
  | _ => simp [hp, Phase.mode?] at hm

/-! ### The scan of the cut source -/

/-- A scan has read the cut text where another one has read the text itself. In a comment it
has not yet settled what came before the comment. -/
structure Follows (source before rest : Text) (s t : State) : Prop where
  source_eq : source = before ++ rest
  offset_eq : s.offset = before.length
  fits : s.phase.Fits (modeAfter before) rest
  outside : s.phase ≠ .comment → t = s.moved (cutOffset source) #[]
  inside : s.phase = .comment → t.phase.mode? = some .text ∧
    t.settle.enter .comment = s.moved (cutOffset source) #[]
  /-- No fault is in a comment. -/
  marks : ∀ o ∈ s.marks, modeAfter (source.take o) ≠ .comment

lemma follows_init (source : Text) : Follows source [] source init init where
  source_eq := rfl
  offset_eq := rfl
  fits := ⟨rfl, by simp [init]⟩
  outside _ := by simp [moved, init, Phase.moved, cutOffset, stripLines_eq_cut, cut]
  inside h := by simp [init] at h
  marks := by simp [marks, faults, init, Phase.marks]

lemma marks_step_comment (hp : s.phase = .comment) (c : Char) : (step s c).marks ≤ s.marks := by
  change (read s c).marks ≤ s.marks
  simp only [read, hp]
  split_ifs with hc
  · subst hc
    simp [prose, marks_enter, Phase.marks, faults_le_marks]
  · exact le_rfl

lemma Follows.marks_step (h : Follows source before (c :: rest) s t) :
    ∀ o ∈ (step s c).marks, modeAfter (source.take o) ≠ .comment := by
  intro o ho
  by_cases hp : s.phase = .comment
  · exact h.marks o (Multiset.mem_of_le (marks_step_comment hp c) ho)
  rcases Multiset.mem_cons.1 (Multiset.mem_of_le (s.marks_step_le c) ho) with rfl | ho
  · rw [h.offset_eq, h.source_eq, List.take_left]
    exact mt h.fits.eq_comment_iff.2 hp
  · exact h.marks o ho

lemma Follows.cutOffset_step (h : Follows source before (c :: rest) s t) :
    cutOffset source (s.offset + 1) =
      cutOffset source s.offset + if modeAfter (before ++ [c]) = .comment then 0 else 1 := by
  have hnow : source.take s.offset = before := by
    rw [h.offset_eq, h.source_eq, List.take_left]
  have hnext : source.take (s.offset + 1) = before ++ [c] := by
    rw [h.offset_eq, h.source_eq, List.take_length_add_append]
    rfl
  rw [cutOffset, cutOffset, hnow, hnext, stripLines_concat, List.length_append]
  split_ifs <;> rfl

lemma moved_advance {f : ℕ → ℕ} {n : ℕ} (h : f (s.offset + n) = f s.offset) (p : Phase)
    (written : Array (Char × ℕ)) :
    (s.advance n p).moved f written = (s.moved f written).enter (p.moved f) := by
  simp [moved, advance, enter, h]

lemma Follows.step_cut (h : Follows source before (c :: rest) s t)
    (hcut : modeAfter (before ++ [c]) = .comment) :
    t.phase.mode? = some .text ∧
      t.settle.enter .comment = (step s c).moved (cutOffset source) #[] := by
  have hoffset : cutOffset source (s.offset + 1) = cutOffset source s.offset := by
    rw [h.cutOffset_step, if_pos hcut, Nat.add_zero]
  rw [modeAfter_concat] at hcut
  by_cases hp : s.phase = .comment
  · have hc : c ≠ '\n' := by
      rintro rfl
      simp at hcut
    have hstep : step s c = s.advance 1 .comment := by simp [step, read, hp, hc, advance]
    obtain ⟨hmode, hmoved⟩ := h.inside hp
    refine ⟨hmode, ?_⟩
    rw [hstep, moved_advance hoffset, ← hmoved]
    rfl
  · obtain ⟨htext, rfl⟩ := eq_percent_of_next (mt h.fits.eq_comment_iff.2 hp) hcut
    have hmode : s.phase.mode? = some .text := htext ▸ h.fits.mode
    have hsettle : s.settle.offset = s.offset := settle_offset hmode
    have hstep : step s '%' = s.settle.advance 1 .comment := by
      have hread : read s '%' = s.settle.enter .comment := read_eq_prose_settle hmode (.inl rfl)
      rw [step, hread]
      rfl
    obtain rfl := h.outside hp
    refine ⟨by rwa [moved_phase, Phase.mode?_moved], ?_⟩
    rw [hstep, moved_advance (by rw [hsettle, hoffset]), settle_moved]
    rfl

lemma Follows.step_kept (h : Follows source before (c :: rest) s t)
    (hkept : modeAfter (before ++ [c]) ≠ .comment) :
    step t c = (step s c).moved (cutOffset source) #[] := by
  have hoffset : cutOffset source (s.offset + 1) = cutOffset source s.offset + 1 := by
    rw [h.cutOffset_step, if_neg hkept]
  rw [← step_moved #[] hoffset]
  by_cases hp : s.phase = .comment
  · -- A comment ends with its line only, and both go on in prose.
    obtain ⟨hmode, hmoved⟩ := h.inside hp
    obtain rfl : c = '\n' := by
      by_contra hc
      rw [modeAfter_concat, h.fits.eq_comment_iff.1 hp, next_comment hc] at hkept
      exact hkept rfl
    have hread : read t '\n' = read (t.settle.enter .comment) '\n' :=
      read_eq_prose_settle hmode (.inr rfl)
    rw [← hmoved, step, step, hread]
  · rw [h.outside hp]

/-- **One character**: the scan of the cut source reads it, or it is cut. -/
lemma follows_step (h : Follows source before (c :: rest) s t) (hd : c ≠ '$')
    (hw : ∀ w ∈ commandsFrom (modeAfter before) (c :: rest), w ∉ structuring) :
    Follows source (before ++ [c]) rest (step s c)
      (if modeAfter (before ++ [c]) = .comment then t else step t c) := by
  have hfits : (step s c).phase.Fits (modeAfter (before ++ [c])) rest := by
    rw [modeAfter_concat]
    exact fits_read h.fits hd hw
  constructor
  case source_eq => simpa using h.source_eq
  case offset_eq =>
    rw [step_offset, h.offset_eq, List.length_append]
    rfl
  case fits => exact hfits
  case outside =>
    intro hp
    have hkept : modeAfter (before ++ [c]) ≠ .comment := mt hfits.eq_comment_iff.2 hp
    rw [if_neg hkept]
    exact h.step_kept hkept
  case inside =>
    intro hp
    have hcut : modeAfter (before ++ [c]) = .comment := hfits.eq_comment_iff.1 hp
    rw [if_pos hcut]
    exact h.step_cut hcut
  case marks => exact h.marks_step

lemma follows_run (h : Follows source before rest s t) (hd : '$' ∉ rest)
    (hw : ∀ w ∈ commandsFrom (modeAfter before) rest, w ∉ structuring) :
    Follows source source [] (run s rest) (run t (cut (modeAfter before) rest)) := by
  induction rest generalizing before s t with
  | nil =>
    obtain rfl : source = before := by simpa using h.source_eq
    exact h
  | cons c rest ih =>
    simp only [List.mem_cons, not_or] at hd
    have hw' : ∀ w ∈ commandsFrom (modeAfter (before ++ [c])) rest, w ∉ structuring := by
      intro w hmem
      refine hw w ?_
      rw [commandsFrom, ← modeAfter_concat]
      split_ifs
      · exact List.mem_cons_of_mem _ hmem
      · exact hmem
    have hrest := ih (follows_step h (Ne.symm hd.1) hw) hd.2 hw'
    rw [run_cons, cut, ← modeAfter_concat]
    split_ifs at hrest ⊢ with hcut
    · rwa [hcut] at hrest
    · exact hrest

/-- **What the scan comes to** on a cut source is what it comes to on the source itself, with
all offsets moved, and none of its faults is in a comment. -/
lemma outcome_stripLines (hd : '$' ∉ source) (hw : ∀ w ∈ commands source, w ∉ structuring) :
    init.outcome (stripLines source) = (init.outcome source).moved (cutOffset source) #[] ∧
      ∀ o ∈ (init.outcome source).faults, modeAfter (source.take o) ≠ .comment := by
  have h := follows_run (follows_init source) hd hw
  rw [modeAfter, List.foldl_nil, ← stripLines_eq_cut] at h
  constructor
  · change (run init (stripLines source)).settle.enter .prose = _
    by_cases hp : (run init source).phase = .comment
    · have hsettle : (run init source).settle = run init source := by simp [settle, hp]
      have hmoved := congrArg (enter · .prose) (h.inside hp).2
      rw [outcome, hsettle]
      exact hmoved
    · rw [h.outside hp, settle_moved]
      rfl
  · intro o ho
    exact h.marks o (Multiset.mem_of_le (faults_settle_le _) ho)

end State

/-! ### Plain text, errors and positions -/

lemma flaws_stripLines (hd : '$' ∉ source) (hw : ∀ w ∈ commands source, w ∉ structuring) :
    flaws (stripLines source) = (flaws source).map (·.moved (cutOffset source)) := by
  rw [flaws_eq_outcome, flaws_eq_outcome, (State.outcome_stripLines hd hw).1,
    State.openFlaws_moved, List.map_append]
  simp [State.moved]

lemma errors_stripLines (hd : '$' ∉ source) (hw : ∀ w ∈ commands source, w ∉ structuring) :
    (detex (stripLines source)).errors = (detex source).errors := by
  rw [errors_detex, errors_detex, flaws_stripLines hd hw, List.map_map]
  refine List.map_congr_left fun flaw hflaw => ?_
  have hfault : flaw.offset ∈ (init.outcome source).faults := by
    change flaw.offset ∈ (run init source).settle.faults
    rw [← coe_offsets_flaws]
    exact List.mem_map_of_mem hflaw
  have hoffset : flaw.offset ≤ source.length := ((offsets_flaws source).2 flaw hflaw).le
  obtain ⟨p, q, hp, hq, -, -, hsame⟩ := exists_positions hoffset
  have hcovers : covers (source.take flaw.offset) = false := by
    by_contra hcovers
    exact (State.outcome_stripLines hd hw).2 _ hfault
      (modeAfter_of_covers (by simpa using hcovers))
  simp only [Function.comp_apply, Flaw.place, Flaw.moved, hp, hq, hsame hcovers]

lemma Traces.exists_stands {bound o : ℕ} {out : List (Char × ℕ)} (h : Traces source bound out)
    (hmem : (c, o) ∈ out) : o < bound ∧ ∃ text, Stands source o text ∧ c ∈ text := by
  obtain ⟨pieces, rfl, -, hpieces⟩ := h
  obtain ⟨piece, hpiece, hin⟩ := List.mem_flatMap.1 hmem
  obtain ⟨d, hd, hdo⟩ := List.mem_map.1 hin
  obtain ⟨rfl, rfl⟩ := Prod.mk.inj hdo
  exact ⟨(hpieces piece hpiece).1, piece.2, (hpieces piece hpiece).2, hd⟩

lemma Stands.eq_newline {o : ℕ} {text : Text} (h : Stands source o text)
    (hnewline : ∀ d, source[o]? = some d → d = '\n') (hc : c ∈ text) : c = '\n' := by
  cases h with
  | itself h _ =>
    obtain rfl := List.mem_singleton.1 hc
    exact hnewline _ h
  | tie h => exact absurd (hnewline _ h) (by decide)
  | blank h _ => exact absurd (hnewline _ h) (by decide)
  | literal h _ _ => exact absurd (hnewline _ h) (by decide)
  | expansion h => exact absurd (hnewline _ h.1) (by decide)

lemma charMap_of_out {i o : ℕ} (h : (init.outcome source).out.toList[i]? = some (c, o)) :
    (detex source).charMap[i]? = some (some o) := by
  obtain ⟨hi, -⟩ := List.getElem?_eq_some_iff.1 h
  rw [State.detex_eq_outcome]
  dsimp only
  rw [List.getElem?_append_left (by simpa using hi), List.getElem?_map, h]
  rfl

lemma exists_origin {i : ℕ} (hd : '$' ∉ source) (hw : ∀ w ∈ commands source, w ∉ structuring)
    (h : (detex source).plain[i]? = some c) :
    ∃ o, (detex source).charMap[i]? = some (some o) ∧
      (detex (stripLines source)).charMap[i]? = some (some (cutOffset source o)) ∧
      o ≤ source.length ∧ (covers (source.take o) → c = '\n') := by
  obtain ⟨hout, -⟩ := State.outcome_stripLines hd hw
  rw [State.detex_eq_outcome] at h
  obtain ⟨⟨d, o⟩, hget, rfl⟩ : ∃ e, (init.outcome source).out.toList[i]? = some e ∧ e.1 = c := by
    simpa using h
  have hcut : (init.outcome (stripLines source)).out.toList[i]? =
      some (d, cutOffset source o) := by
    simp [hout, State.moved, hget]
  have hinside : o < source.length :=
    ((State.traces_outcome source).exists_stands (List.mem_of_getElem? hget)).1
  obtain ⟨-, text, hstands, hmem⟩ :=
    (State.traces_outcome (stripLines source)).exists_stands (List.mem_of_getElem? hcut)
  refine ⟨o, charMap_of_out hget, charMap_of_out hcut, hinside.le, fun hcovers => ?_⟩
  exact hstands.eq_newline
    (fun _ hnext => getElem?_cutOffset (modeAfter_of_covers hcovers) hnext) hmem

/-- **Comments are invisible to detexing**, where no argument and no math is read. A source cut
line by line has the same plain text and the same errors. Each plain character has the same
position, but for the newline behind a comment: its column is where the line has been cut. -/
theorem detex_stripLines (hd : '$' ∉ source) (hw : ∀ w ∈ commands source, w ∉ structuring) :
    (detex (stripLines source)).plain = (detex source).plain ∧
      (detex (stripLines source)).errors = (detex source).errors ∧
      ∀ (i : ℕ) (c : Char), (detex source).plain[i]? = some c → ∃ (o : ℕ) (p q : Position),
        (detex source).charMap[i]? = some (some o) ∧
        ((detex source).translator source).position? i = some p ∧
        ((detex (stripLines source)).translator (stripLines source)).position? i = some q ∧
        q.line = p.line ∧
        (q = p ∨ c = '\n' ∧ covers (source.take o) ∧
          q.column = .ofNat ((strip (lastLine (source.take o))).length + 1)) := by
  refine ⟨?_, errors_stripLines hd hw, fun i c hc => ?_⟩
  · rw [State.detex_eq_outcome, State.detex_eq_outcome, (State.outcome_stripLines hd hw).1]
    simp [State.moved, Function.comp_def]
  · obtain ⟨o, ho, hcut, hle, hnewline⟩ := exists_origin hd hw hc
    obtain ⟨p, q, hp, hq, hline, hcolumn, hsame⟩ := exists_positions hle
    refine ⟨o, p, q, ho, Translator.position?_eq_some_iff.2 ⟨o, ho, hp⟩,
      Translator.position?_eq_some_iff.2 ⟨_, hcut, hq⟩, hline, ?_⟩
    cases hcovers : covers (source.take o) with
    | false => exact .inl (hsame hcovers)
    | true => exact .inr ⟨hnewline hcovers, rfl, hcolumn⟩

/-- A comment behind the name of a command, with a command in it; an escaped percent sign, a
brace that closes nothing, and a comment behind a line break. -/
def notedSource : Text := "\\emph% \\begin\x7ba\x7d\n50\\% \x7dx\\\\% y\n".toList

theorem detex_stripLines_noted :
    '$' ∉ notedSource ∧ (∀ w ∈ commands notedSource, w ∉ structuring) ∧
      (detex (stripLines notedSource)).plain = "\n50% x \n".toList ∧
      (detex (stripLines notedSource)).errors = [⟨some ⟨2, 6⟩, .unmatchedClosingBrace⟩] ∧
      ((detex (stripLines notedSource)).translator (stripLines notedSource)).position? 5 =
        some ⟨2, 7⟩ := by
  have hd : '$' ∉ notedSource := by decide
  have hcommands : commands notedSource =
      ["emph".toList, "%".toList, "\\".toList] := by cbv
  have hw : ∀ w ∈ commands notedSource, w ∉ structuring := by
    rw [hcommands]
    decide
  have hsource : detex notedSource = ⟨"\n50% x \n".toList,
      [16, 17, 18, 19, 21, 23, 24, 29, 30].map some,
      [⟨some ⟨2, 6⟩, .unmatchedClosingBrace⟩]⟩ := by cbv
  obtain ⟨hplain, herrors, hplaces⟩ := detex_stripLines hd hw
  have hchar : (detex notedSource).plain[5]? = some 'x' := by rw [hsource]; rfl
  have hposition : ((detex notedSource).translator notedSource).position? 5 = some ⟨2, 7⟩ := by
    rw [hsource]
    cbv
  obtain ⟨o, p, q, -, hp, hq, -, hsame⟩ := hplaces 5 'x' hchar
  obtain rfl : q = p := hsame.resolve_right fun hline => absurd hline.1 (by decide)
  refine ⟨hd, hw, by rw [hplain, hsource], by rw [herrors, hsource], ?_⟩
  rw [hq, ← hp, hposition]

def notedLine : Text := "word % note\n".toList

/-- **The newline behind a comment** has another column in the cut source. -/
theorem detex_stripLines_newline :
    '$' ∉ notedLine ∧ (∀ w ∈ commands notedLine, w ∉ structuring) ∧
      stripLines notedLine = "word \n".toList ∧ (detex notedLine).plain[5]? = some '\n' ∧
      ((detex notedLine).translator notedLine).position? 5 = some ⟨1, 12⟩ ∧
      ((detex (stripLines notedLine)).translator (stripLines notedLine)).position? 5 =
        some ⟨1, 6⟩ := by
  refine ⟨by decide, by decide, by decide, by decide +kernel, by decide +kernel, by decide +kernel⟩

end LatexReview.Detex
