import Mathlib
import LatexReview.Proofs.Detex.Construct

/-!
Where the characters of a plain text come from.

Whatever the source, the scan writes its output in pieces: what one character or command of
the source stands for, each piece from further down the source than the one before. All that
is said of the char map follows from that.
-/

namespace LatexReview.Detex

/-- The name of the command whose letters start a text, with its star. -/
def commandName (s : Text) : Text :=
  s.takeWhile Text.isLetter ++
    if (s.dropWhile Text.isLetter).head? = some '*' then ['*'] else []

/-- The source at an offset is a command that stands for a text. -/
def Expands (source : Text) (offset : Nat) (text : Text) : Prop :=
  source[offset]? = some '\\' ∧ (commandName (source.drop (offset + 1)), text) ∈ expansions

/-- What the source at an offset stands for. -/
inductive Stands (source : Text) (offset : Nat) : Text → Prop where
  | itself {c : Char} (h : source[offset]? = some c) (hc : c ∉ markup) : Stands source offset [c]
  | tie (h : source[offset]? = some '~') : Stands source offset [' ']
  | blank (h : source[offset]? = some '\\')
    (hn : source[offset + 1]? = some '\\' ∨ source[offset + 1]? = some ' ') :
    Stands source offset [' ']
  | literal {c : Char} (h : source[offset]? = some '\\') (hn : source[offset + 1]? = some c)
    (hc : c ∈ escapable) : Stands source offset [c]
  | expansion {text : Text} (h : Expands source offset text) : Stands source offset text

/-! ### Pieces of output -/

/-- The characters of some pieces, each with the offset of its piece. -/
def flat (pieces : List (Nat × Text)) : List (Char × Nat) :=
  pieces.flatMap fun p => p.2.map (·, p.1)

@[simp] lemma flat_nil : flat [] = [] := rfl

@[simp] lemma flat_cons (o : Nat) (t : Text) (ps : List (Nat × Text)) :
    flat ((o, t) :: ps) = t.map (·, o) ++ flat ps := rfl

@[simp] lemma flat_append (ps qs : List (Nat × Text)) : flat (ps ++ qs) = flat ps ++ flat qs := by
  simp [flat]

lemma mem_flat {ps : List (Nat × Text)} {e : Char × Nat} (h : e ∈ flat ps) :
    ∃ p ∈ ps, p.1 = e.2 := by
  obtain ⟨p, hp, he⟩ := List.mem_flatMap.1 h
  obtain ⟨c, -, rfl⟩ := List.mem_map.1 he
  exact ⟨p, hp, rfl⟩

/-- The output comes in pieces that the source stands for, in order, from before `bound`. -/
def Traces (source : Text) (bound : Nat) (out : List (Char × Nat)) : Prop :=
  ∃ pieces, out = flat pieces ∧ pieces.Pairwise (·.1 < ·.1) ∧
    ∀ p ∈ pieces, p.1 < bound ∧ Stands source p.1 p.2

variable {source : Text}

lemma traces_nil (bound : Nat) : Traces source bound [] := ⟨[], rfl, .nil, by simp⟩

lemma Traces.mono {b b' : Nat} {out : List (Char × Nat)} (h : Traces source b out)
    (hb : b ≤ b') :
    Traces source b' out := by
  obtain ⟨ps, rfl, hord, hps⟩ := h
  exact ⟨ps, rfl, hord, fun p hp => ⟨(hps p hp).1.trans_le hb, (hps p hp).2⟩⟩

lemma Traces.append {b b' o : Nat} {t : Text} {out : List (Char × Nat)} (h : Traces source b out)
    (hs : Stands source o t) (ho : b ≤ o) (ho' : o < b') :
    Traces source b' (out ++ t.map (·, o)) := by
  obtain ⟨ps, rfl, hord, hps⟩ := h
  refine ⟨ps ++ [(o, t)], by simp, ?_, ?_⟩
  · rw [List.pairwise_append]
    refine ⟨hord, by simp, fun p hp q hq => ?_⟩
    obtain rfl : q = (o, t) := by simpa using hq
    exact (hps p hp).1.trans_le ho
  · intro p hp
    rcases List.mem_append.1 hp with hp | hp
    · exact ⟨by have := (hps p hp).1; omega, (hps p hp).2⟩
    · obtain rfl : p = (o, t) := by simpa using hp
      exact ⟨ho', hs⟩

/-! ### Names of commands -/

lemma commandName_append {letters rest : Text} (hl : ∀ c ∈ letters, Text.isLetter c)
    (hr : ∀ c ∈ rest.head?, Text.isLetter c = false) :
    commandName (letters ++ rest) = letters ++ if rest.head? = some '*' then ['*'] else [] := by
  have htake : (letters ++ rest).takeWhile Text.isLetter = letters := by
    rw [List.takeWhile_append_of_pos hl]
    cases rest with
    | nil => simp
    | cons c rest => simp [hr c rfl]
  have hdrop : (letters ++ rest).dropWhile Text.isLetter = rest := by
    rw [List.dropWhile_append_of_pos hl]
    cases rest with
    | nil => simp
    | cons c rest => simp [hr c rfl]
  rw [commandName, htake, hdrop]

lemma mem_expansions_of_role {name text : Text} (h : Role.ofName name = .expands text) :
    (name, text) ∈ expansions := by
  unfold Role.ofName at h
  split at h
  · simp at h
  split at h
  · simp at h
  split at h
  · rename_i t hl
    obtain rfl : t = text := by simpa using h
    obtain ⟨before, after, hex, -⟩ := List.lookup_eq_some_iff.1 hl
    simp [hex]
  · split at h <;> simp at h

/-! ### What every scan keeps -/

namespace State

/-- Where the next piece of output may come from, at the earliest. -/
def front (s : State) : Nat :=
  match s.phase with
  | .escape start | .name start _ => start
  | _ => s.offset

/-- What the scan remembers of a command under way is what the source has there. -/
def Remembers (source : Text) (s : State) : Prop :=
  match s.phase with
  | .escape start => s.offset = start + 1 ∧ source[start]? = some '\\'
  | .name start letters =>
    s.offset = start + 1 + letters.length ∧ source[start]? = some '\\' ∧
      source.drop (start + 1) = letters.reverse ++ source.drop s.offset ∧
      ∀ c ∈ letters, Text.isLetter c
  | _ => True

/-- The output is traced, and stays so whatever the scan is in the middle of. -/
def Faithful (source : Text) (s : State) : Prop :=
  Traces source s.front s.out.toList ∧ s.Remembers source

/-- The scan after a character has been read. -/
def tick (s : State) : State := { s with offset := s.offset + 1 }

/-- Not in the middle of a command. -/
def Quiet : Phase → Prop
  | .escape _ | .name _ _ => False
  | _ => True

variable {s t : State}

lemma front_of_quiet (h : Quiet s.phase) : s.front = s.offset := by
  unfold front
  cases hp : s.phase <;> simp_all [Quiet]

lemma faithful_of_quiet (h : Quiet s.phase) (ht : Traces source s.offset s.out.toList) :
    s.Faithful source := by
  refine ⟨by rwa [front_of_quiet h], ?_⟩
  unfold Remembers
  cases hp : s.phase <;> simp_all [Quiet]

lemma faithful_tick (h : Quiet s.phase) (ht : Traces source s.offset s.out.toList) :
    s.tick.Faithful source :=
  faithful_of_quiet h (ht.mono (Nat.le_succ _))

lemma faithful_prose {c : Char} (h : Traces source s.offset s.out.toList)
    (hc : source[s.offset]? = some c) : (s.prose c).tick.Faithful source := by
  unfold prose
  split
  · exact faithful_tick trivial h
  · exact ⟨h, rfl, hc⟩
  · exact faithful_tick trivial h
  · dsimp only
    split <;> exact faithful_tick trivial h
  · exact faithful_tick trivial h
  · refine faithful_of_quiet trivial ?_
    simpa [tick, emit, enter] using h.append (.tie hc) le_rfl (Nat.lt_succ_self _)
  · refine faithful_of_quiet trivial ?_
    have hm : c ∉ markup := by simp_all [markup]
    simpa [tick, emit, enter] using h.append (.itself hc hm) le_rfl (Nat.lt_succ_self _)

lemma faithful_gap {c : Char} (h : Traces source s.offset s.out.toList)
    (hc : source[s.offset]? = some c) : (s.gap c).tick.Faithful source := by
  unfold gap
  split
  · exact faithful_tick trivial h
  · exact faithful_prose h hc

lemma faithful_argument {c : Char} (use : Use) (h : Traces source s.offset s.out.toList)
    (hc : source[s.offset]? = some c) : (s.argument use c).tick.Faithful source := by
  unfold argument
  split_ifs
  · exact faithful_tick trivial h
  · exact faithful_tick trivial h
  · exact faithful_prose h hc

lemma faithful_options {c : Char} (h : Traces source s.offset s.out.toList)
    (hc : source[s.offset]? = some c) : (s.options c).tick.Faithful source := by
  unfold options
  split
  · exact faithful_tick trivial h
  · exact faithful_argument _ h hc

lemma faithful_resume {c : Char} (h : Traces source s.offset s.out.toList)
    (hc : source[s.offset]? = some c) : (s.resume c).tick.Faithful source := by
  unfold resume
  split
  · exact faithful_gap h hc
  · exact faithful_options h hc
  · exact faithful_argument _ h hc
  · exact faithful_prose h hc

lemma traces_endName {start b : Nat} {name : Text} (h : Traces source start s.out.toList)
    (hs : source[start]? = some '\\') (hn : name = commandName (source.drop (start + 1)))
    (hb : start < b) : Traces source b (s.endName start name).out.toList := by
  unfold endName
  cases hr : Role.ofName name with
  | expands text =>
    have hexp : Expands source start text := ⟨hs, hn ▸ mem_expansions_of_role hr⟩
    simpa [emitAll_eq_write, write, enter] using h.append (.expansion hexp) le_rfl hb
  | _ => exact h.mono hb.le

lemma endName_quiet (start : Nat) (name : Text) : Quiet (s.endName start name).phase := by
  unfold endName
  cases Role.ofName name <;> simp [emitAll_eq_write, write, enter, Quiet]

lemma endGroup_keeps (use : Use) (content : Text) :
    Quiet (s.endGroup use content).phase ∧ (s.endGroup use content).offset = s.offset ∧
      (s.endGroup use content).out = s.out := by
  cases use with
  | ignored => exact ⟨trivial, rfl, rfl⟩
  | opens start =>
    simp only [endGroup, openEnvironment]
    split <;> exact ⟨trivial, rfl, rfl⟩
  | closes start =>
    simp only [endGroup, closeEnvironment]
    split
    · exact ⟨trivial, rfl, rfl⟩
    split
    · exact ⟨trivial, rfl, rfl⟩
    split <;> exact ⟨trivial, rfl, rfl⟩

lemma faithful_escape {start : Nat} {c : Char} (h : Traces source start s.out.toList)
    (ho : s.offset = start + 1) (hs : source[start]? = some '\\')
    (hc : source[s.offset]? = some c) : (s.escape start c).tick.Faithful source := by
  have hb : start < s.offset + 1 := by omega
  rw [ho] at hc
  unfold escape
  split_ifs with hl hp hk hblank hlit
  · refine ⟨h, by simp [tick, ho, enter], hs, ?_, by simpa using hl⟩
    simp only [tick, enter, ho]
    rw [List.drop_eq_getElem?_toList_append, hc]
    rfl
  · exact faithful_tick trivial (h.mono (by simp [enter]; omega))
  · exact faithful_tick trivial (h.mono (by simp [enter]; omega))
  · refine faithful_of_quiet trivial ?_
    have hn : source[start + 1]? = some '\\' ∨ source[start + 1]? = some ' ' := by
      rcases (by simpa using hblank : c = '\\' ∨ c = ' ') with rfl | rfl <;> simp [hc]
    simpa [tick, emit, enter] using h.append (.blank hs hn) le_rfl hb
  · refine faithful_of_quiet trivial ?_
    simpa [tick, emit, enter] using h.append (.literal hs hc hlit) le_rfl hb
  · exact faithful_tick trivial (h.mono (by simp [enter]; omega))

lemma faithful_name {start : Nat} {letters : Text} {c : Char}
    (h : Traces source start s.out.toList) (ho : s.offset = start + 1 + letters.length)
    (hs : source[start]? = some '\\')
    (hd : source.drop (start + 1) = letters.reverse ++ source.drop s.offset)
    (hl : ∀ c ∈ letters, Text.isLetter c) (hc : source[s.offset]? = some c) :
    (s.name start letters c).tick.Faithful source := by
  have hrest : source.drop s.offset = c :: source.drop (s.offset + 1) := by
    rw [List.drop_eq_getElem?_toList_append, hc]
    rfl
  have hname : Text.isLetter c = false → commandName (source.drop (start + 1)) =
      letters.reverse ++ if c = '*' then ['*'] else [] := by
    intro hlet
    rw [hd, hrest, commandName_append (by simpa using hl) (by simp [hlet])]
    simp
  unfold name
  split_ifs with hlet hstar
  · refine ⟨h, by simp [tick, enter, ho]; omega, hs, ?_, ?_⟩
    · rw [hd, hrest]
      simp [tick, enter]
    · intro d hd
      rcases List.mem_cons.1 hd with rfl | hd
      · exact hlet
      · exact hl d hd
  · refine faithful_tick (endName_quiet _ _) (traces_endName h hs ?_ ?_)
    · rw [hname (by simpa using hlet), if_pos hstar, List.reverse_cons, hstar]
    · rw [endName_offset]
      omega
  · have hend : Traces source s.offset (s.endName start letters.reverse).out.toList := by
      refine traces_endName h hs ?_ (by omega)
      rw [hname (by simpa using hlet), if_neg hstar, List.append_nil]
    exact faithful_resume (by rwa [endName_offset]) (by rwa [endName_offset])

lemma faithful_option {start depth : Nat} {c : Char} (hp : Quiet s.phase)
    (h : Traces source s.offset s.out.toList) : (s.option start depth c).tick.Faithful source := by
  unfold option
  split_ifs
  · exact faithful_tick trivial h
  · exact faithful_tick trivial h
  · exact faithful_tick trivial h
  · exact faithful_tick hp h

lemma faithful_group {start depth : Nat} {use : Use} {content : Text} {c : Char}
    (h : Traces source s.offset s.out.toList) :
    (s.group use start depth content c).tick.Faithful source := by
  unfold group
  split_ifs
  · exact faithful_tick trivial h
  · obtain ⟨hq, ho, hout⟩ := s.endGroup_keeps use content.reverse
    exact faithful_tick hq (by rwa [ho, hout])
  · exact faithful_tick trivial h
  · exact faithful_tick trivial h

lemma faithful_math {start : Nat} {c : Char} (h : Traces source s.offset s.out.toList) :
    (s.math start c).tick.Faithful source := by
  unfold math
  split_ifs <;> exact faithful_tick trivial h

lemma faithful_skip {start : Nat} {terminator passed : Text} {fault : Fault} {c : Char}
    (h : Traces source s.offset s.out.toList) :
    (s.skip start terminator fault passed c).tick.Faithful source := by
  unfold skip
  dsimp only
  split <;> exact faithful_tick trivial h

/-- **One character.** A faithful scan stays faithful when it reads on in its source. -/
lemma faithful_step {c : Char} (h : s.Faithful source) (hc : source[s.offset]? = some c) :
    (step s c).Faithful source := by
  obtain ⟨ht, hr⟩ := h
  change (read s c).tick.Faithful source
  unfold front at ht
  unfold Remembers at hr
  unfold read
  cases hp : s.phase with
  | escape start =>
    simp only [hp] at ht hr
    exact faithful_escape ht hr.1 hr.2 hc
  | name start letters =>
    simp only [hp] at ht hr
    obtain ⟨ho, hs, hd, hl⟩ := hr
    exact faithful_name ht ho hs hd hl hc
  | prose => exact faithful_prose (by simpa [hp] using ht) hc
  | gap => exact faithful_gap (by simpa [hp] using ht) hc
  | options => exact faithful_options (by simpa [hp] using ht) hc
  | argument use => exact faithful_argument use (by simpa [hp] using ht) hc
  | option start depth => exact faithful_option (by simp [hp, Quiet]) (by simpa [hp] using ht)
  | group use start depth content => exact faithful_group (by simpa [hp] using ht)
  | math start => exact faithful_math (by simpa [hp] using ht)
  | skip start terminator fault passed => exact faithful_skip (by simpa [hp] using ht)
  | mathEscape start =>
    simp only [hp] at ht
    exact faithful_tick trivial ht
  | comment =>
    simp only [hp] at ht
    dsimp only
    split
    · exact faithful_prose ht hc
    · exact faithful_tick (by simp [hp, Quiet]) ht
  | dollar start =>
    simp only [hp] at ht
    dsimp only
    split
    · exact faithful_tick trivial ht
    · exact faithful_math ht

lemma faithful_init : init.Faithful source := ⟨traces_nil _, trivial⟩

lemma faithful_run {before rest : Text} (hsource : before ++ rest = source)
    (ho : s.offset = before.length) (h : s.Faithful source) : (run s rest).Faithful source := by
  induction rest generalizing s before with
  | nil => exact h
  | cons c rest ih =>
    have hc : source[s.offset]? = some c := by simp [← hsource, ho]
    have hnext : (before ++ [c]) ++ rest = source := by simpa using hsource
    exact ih hnext (by simp [step_offset, ho]) (faithful_step h hc)

lemma traces_settle (h : s.Faithful source) (ho : s.offset = source.length) :
    Traces source source.length s.settle.out.toList := by
  obtain ⟨ht, hr⟩ := h
  unfold front at ht
  unfold Remembers at hr
  unfold settle
  cases hp : s.phase with
  | name start letters =>
    simp only [hp] at ht hr
    obtain ⟨hoff, hs, hd, hl⟩ := hr
    refine traces_endName ht hs ?_ (by omega)
    rw [hd, ho, List.drop_length, commandName_append (by simpa using hl) (by simp)]
    simp
  | escape start =>
    simp only [hp] at ht hr
    exact ht.mono (by omega)
  | _ => simpa [hp, ← ho, report] using ht

/-- **What the scan writes is traced**, for every source. -/
theorem traces_outcome (source : Text) :
    Traces source source.length (init.outcome source).out.toList :=
  traces_settle (faithful_run (List.nil_append source) rfl faithful_init)
    (by simp [run_offset, init])

end State

end LatexReview.Detex
