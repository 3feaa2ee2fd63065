import Mathlib
import LatexReview.Proofs.Detex.Construct

/-!
Manuscripts: well-formed sources as trees.

A manuscript is a row of items, some of which hold manuscripts. It can be written out as a
source, and says what of it is prose and where each character of the prose comes from.
Detexing the source gives just that, and no errors.
-/

namespace LatexReview.Detex

/-- An item that holds no other items. -/
inductive Atom where
  | char (c : Char)
  | tie
  /-- A backslash with the character after it, which is no letter. -/
  | symbol (c : Char)
  | comment (body : Text)
  | dollars (m : Text)
  | doubleDollars (m : Text)
  | parentheses (m : Text)
  | brackets (m : Text)
  /-- An environment of math. -/
  | formula (name m : Text)
  /-- A command that stands for a text. -/
  | expansion (name text : Text)
  /-- A command whose arguments are not prose, with blanks before the last one. -/
  | reference (name : Text) (options : List Text) (gap : Text) (argument : Option Text)
  /-- Any other command, with the blanks after it. -/
  | word (name : Text) (starred : Bool) (gap : Text)

namespace Atom

def star (starred : Bool) : Text := if starred then ['*'] else []

def renderArgument : Option Text → Text
  | none => []
  | some argument => '{' :: argument ++ ['}']

def render : Atom → Text
  | char c => [c]
  | tie => ['~']
  | symbol c => ['\\', c]
  | comment body => '%' :: body ++ ['\n']
  | dollars m => '$' :: m ++ ['$']
  | doubleDollars m => "$$".toList ++ m ++ "$$".toList
  | parentheses m => "\\(".toList ++ m ++ "\\)".toList
  | brackets m => "\\[".toList ++ m ++ "\\]".toList
  | formula name m => command "begin".toList name ++ m ++ command "end".toList name
  | expansion name _ => '\\' :: name
  | reference name options gap argument =>
    '\\' :: name ++ State.renderOptions options ++ gap ++ renderArgument argument
  | word name starred gap => '\\' :: name ++ star starred ++ gap

def text : Atom → Text
  | char c => [c]
  | tie => [' ']
  | symbol c => State.symbolText c
  | comment _ => ['\n']
  | expansion _ text => text
  | _ => []

/-- Where the prose of an item comes from, if the item stands at an offset: from its first
character, but for the line break that ends a comment. -/
def origin (offset : Nat) : Atom → Nat
  | comment body => offset + body.length + 1
  | _ => offset

/-- What may follow a command that ends in blanks. -/
def EndsGap (gap : Text) (next : Option Char) : Prop :=
  (∀ c ∈ gap, State.isGap c) ∧ ∀ c ∈ next, State.isGap c = false

/-- An item is well formed, and reads as itself if `next` is the character after it. -/
def Fits (next : Option Char) : Atom → Prop
  | char c => c ∉ markup
  | tie => True
  | symbol c => Text.isLetter c = false ∧ c ≠ '(' ∧ c ≠ '['
  | comment body => '\n' ∉ body
  | dollars m => m ≠ [] ∧ State.inlineMath m
  | doubleDollars m => ¬ "$$".toList <:+: m ∧ m.getLast? ≠ some '$'
  | parentheses m => ¬ "\\)".toList <:+: m
  | brackets m => ¬ "\\]".toList <:+: m
  | formula name m => name ∈ mathEnvironments ∧ ¬ command "end".toList name <:+: m
  | expansion name text => (name, text) ∈ expansions ∧ State.EndsName next
  | reference name options gap argument =>
    name ∈ skippingCommands ∧ (∀ o ∈ options, State.nested '[' ']' 0 o) ∧
      match argument with
      | some argument => (∀ c ∈ gap, State.isGap c) ∧ State.nested '{' '}' 0 argument
      | none => EndsGap gap next ∧ (∀ c ∈ next, c ≠ '{') ∧
        (gap = [] → (∀ c ∈ next, c ≠ '[') ∧ (options = [] → State.EndsName next))
  | word name starred gap =>
    name ≠ [] ∧ (∀ c ∈ name, Text.isLetter c) ∧ name ++ star starred ∉ reserved ∧
      EndsGap gap next ∧ (gap = [] → starred ∨ State.EndsName next)

end Atom

/-- A row of items, nested to any depth. -/
inductive Manuscript where
  | nil
  | atom (a : Atom) (rest : Manuscript)
  | group (body rest : Manuscript)
  | environment (name : Text) (body rest : Manuscript)

namespace Manuscript

def render : Manuscript → Text
  | nil => []
  | atom a rest => a.render ++ rest.render
  | group body rest => '{' :: body.render ++ '}' :: rest.render
  | environment name body rest =>
    command "begin".toList name ++ body.render ++ command "end".toList name ++ rest.render

def text : Manuscript → Text
  | nil => []
  | atom a rest => a.text ++ rest.text
  | group body rest => body.text ++ rest.text
  | environment _ body rest => body.text ++ rest.text

/-- Where each character of the prose comes from, if the manuscript stands at an offset. -/
def origins (offset : Nat) : Manuscript → List Nat
  | nil => []
  | atom a rest =>
    List.replicate a.text.length (a.origin offset) ++ rest.origins (offset + a.render.length)
  | group body rest =>
    body.origins (offset + 1) ++ rest.origins (offset + body.render.length + 2)
  | environment name body rest =>
    let start := offset + (command "begin".toList name).length
    body.origins start ++
      rest.origins (start + body.render.length + (command "end".toList name).length)

/-- All items are well formed, and read as themselves in their places; `next` is the
character after the manuscript. -/
def Fits (next : Option Char) : Manuscript → Prop
  | nil => True
  | atom a rest => a.Fits (rest.render.head?.or next) ∧ rest.Fits next
  | group body rest => body.Fits (some '}') ∧ rest.Fits next
  | environment name body rest =>
    '{' ∉ name ∧ '}' ∉ name ∧ name ∉ mathEnvironments ∧ body.Fits (some '\\') ∧
      rest.Fits next

@[simp] lemma length_origins (d : Manuscript) (offset : Nat) :
    (d.origins offset).length = d.text.length := by
  induction d generalizing offset with
  | nil => rfl
  | atom a rest ih => simp [origins, text, ih]
  | group body rest ihb ih => simp [origins, text, ihb, ih]
  | environment name body rest ihb ih => simp [origins, text, ihb, ih]

end Manuscript

lemma zip_replicate {α β : Type} (l : List α) (b : β) :
    l.zip (List.replicate l.length b) = l.map (·, b) := by
  rw [← List.map_const', ← List.map_prod_left_eq_zip]

/-! ### Reading items -/

namespace State

variable {s : State} {rest : Text}

lemma gap_head_ne {gap : Text} (hgap : ∀ c ∈ gap, isGap c)
    (h : gap = [] → ∀ c ∈ rest.head?, c ≠ '[') : ∀ c ∈ (gap ++ rest).head?, c ≠ '[' := by
  rcases gap with _ | ⟨d, gap⟩
  · exact h rfl
  · rintro c hc rfl
    obtain rfl : d = '[' := by simpa using hc
    simpa [isGap] using hgap '[' (by simp)

lemma outcome_skipping {name : Text} {options : List Text} (hs : s.phase = .prose)
    (hname : name ∈ skippingCommands) (hoptions : ∀ o ∈ options, nested '[' ']' 0 o)
    (hnext : options = [] → EndsName rest.head?) (hopt : ∀ c ∈ rest.head?, c ≠ '[') :
    s.outcome ('\\' :: name ++ (renderOptions options ++ rest)) =
      (s.advance (name.length + 1 + (renderOptions options).length)
        (.argument .ignored)).outcome rest := by
  obtain ⟨hne, hl⟩ := skipping_letters name hname
  have hrole : ∀ t : State, t.endName s.offset name = t.enter .options := fun t => by
    simp [endName, ofName_skipping name hname]
  have hends : EndsName (renderOptions options ++ rest).head? := by
    rcases options with _ | ⟨o, options⟩
    · exact hnext rfl
    · simp [EndsName, renderOptions, Text.isLetter]
  rw [outcome_command hs hne hl hends, hrole, ← advance_prose, enter_advance,
    outcome_options _ hoptions, outcome_no_option _ hopt]

lemma outcome_reference {name gap : Text} {options : List Text} {argument : Option Text}
    (hs : s.phase = .prose)
    (h : (Atom.reference name options gap argument).Fits rest.head?) :
    s.outcome ((Atom.reference name options gap argument).render ++ rest) =
      (s.pass (Atom.reference name options gap argument).render.length []).outcome rest := by
  obtain ⟨hname, hoptions, h⟩ := h
  cases argument with
  | none =>
    obtain ⟨⟨hgap, hblank⟩, hbrace, hbracket⟩ := h
    have hr : (Atom.reference name options gap none).render ++ rest =
        '\\' :: name ++ (renderOptions options ++ (gap ++ rest)) := by
      simp [Atom.render, Atom.renderArgument]
    have hnext : options = [] → EndsName (gap ++ rest).head? := by
      intro ho
      by_cases hg : gap = []
      · subst hg
        exact (hbracket rfl).2 ho
      · exact endsName_gap hgap hg
    rw [hr, outcome_skipping hs hname hoptions hnext
      (gap_head_ne hgap fun hg => (hbracket hg).1),
      outcome_no_argument _ _ hgap fun c hc => ⟨hblank c hc, hbrace c hc⟩]
    congr 2
    simp [Atom.render, Atom.renderArgument]
    omega
  | some argument =>
    obtain ⟨hgap, hargument⟩ := h
    have hr : (Atom.reference name options gap (some argument)).render ++ rest =
        '\\' :: name ++ (renderOptions options ++ (gap ++ '{' :: (argument ++ '}' :: rest))) := by
      simp [Atom.render, Atom.renderArgument]
    have hnext : options = [] → EndsName (gap ++ '{' :: (argument ++ '}' :: rest)).head? := by
      intro _
      by_cases hg : gap = []
      · subst hg
        simp [EndsName, Text.isLetter]
      · exact endsName_gap hgap hg
    rw [hr, outcome_skipping hs hname hoptions hnext (gap_head_ne hgap fun _ => by simp),
      outcome_argument _ _ hgap hargument]
    simp only [endGroup, pass_enter]
    congr 2
    simp [Atom.render, Atom.renderArgument]
    omega

lemma outcome_word {name gap : Text} {starred : Bool} (hs : s.phase = .prose)
    (h : (Atom.word name starred gap).Fits rest.head?) :
    s.outcome ((Atom.word name starred gap).render ++ rest) =
      (s.pass (Atom.word name starred gap).render.length []).outcome rest := by
  obtain ⟨hne, hl, hname, ⟨hgap, hblank⟩, hnext⟩ := h
  have hrole : ∀ t : State, t.endName s.offset (name ++ Atom.star starred) = t.enter .gap := by
    intro t
    simp [endName, ofName_vanishes hname]
  cases starred with
  | true =>
    have hr : (Atom.word name true gap).render ++ rest = '\\' :: name ++ '*' :: (gap ++ rest) := by
      simp [Atom.render, Atom.star]
    rw [Atom.star, if_pos rfl] at hrole
    rw [hr, outcome_starred hs hne hl, hrole, ← advance_prose, enter_advance,
      outcome_gap _ hgap hblank]
    congr 2
    simp [Atom.render, Atom.star]
    omega
  | false =>
    have hends : EndsName (gap ++ rest).head? := by
      by_cases hg : gap = []
      · subst hg
        simpa using hnext rfl
      · exact endsName_gap hgap hg
    have hr : (Atom.word name false gap).render ++ rest = '\\' :: name ++ (gap ++ rest) := by
      simp [Atom.render, Atom.star]
    rw [Atom.star, if_neg (by simp), List.append_nil] at hrole
    rw [hr, outcome_command hs hne hl hends, hrole, ← advance_prose, enter_advance,
      outcome_gap _ hgap hblank]
    congr 2
    simp [Atom.render, Atom.star]
    omega

lemma outcome_expansion {name text : Text} (hs : s.phase = .prose)
    (h : (name, text) ∈ expansions) (hnext : EndsName rest.head?) :
    s.outcome ('\\' :: name ++ rest) =
      (s.pass (name.length + 1) (text.map (·, s.offset))).outcome rest := by
  obtain ⟨hne, hl⟩ := expansion_letters _ h
  rw [outcome_command hs hne hl hnext, endName, ofName_expansion _ h]
  simp only [emitAll_eq_write, pass_enter]
  simp [pass, write]

lemma outcome_atom {a : Atom} (hs : s.phase = .prose) (h : a.Fits rest.head?) :
    s.outcome (a.render ++ rest) =
      (s.pass a.render.length (a.text.map (·, a.origin s.offset))).outcome rest := by
  cases a with
  | char c => exact outcome_char hs h
  | tie => exact outcome_tie hs
  | symbol c => exact outcome_symbol hs h.1 h.2.1 h.2.2
  | comment body => simpa [Atom.render, Atom.text, Atom.origin] using outcome_comment hs h
  | dollars m => simpa [Atom.render, Atom.text] using outcome_dollars hs h.1 h.2
  | doubleDollars m =>
    simpa [Atom.render, Atom.text, Nat.add_assoc] using
      outcome_doubleDollars rest hs (by simpa using h.1) h.2
  | parentheses m =>
    simpa [Atom.render, Atom.text, Nat.add_assoc] using
      outcome_delimited (c := '(') (d := ')') rest hs (fun _ => rfl) (by decide)
        (by simpa [Atom.Fits] using h)
  | brackets m =>
    simpa [Atom.render, Atom.text, Nat.add_assoc] using
      outcome_delimited (c := '[') (d := ']') rest hs (fun _ => rfl) (by decide)
        (by simpa [Atom.Fits] using h)
  | formula name m =>
    simpa [Atom.render, Atom.text, Nat.add_assoc] using outcome_formula rest hs h.1 h.2
  | expansion name text => exact outcome_expansion hs h.1 h.2
  | reference name options gap argument => exact outcome_reference hs h
  | word name starred gap => exact outcome_word hs h

lemma outcome_manuscript {d : Manuscript} (hs : s.phase = .prose) (h : d.Fits rest.head?) :
    s.outcome (d.render ++ rest) =
      (s.pass d.render.length (d.text.zip (d.origins s.offset))).outcome rest := by
  induction d generalizing s rest with
  | nil =>
    rw [show s.pass (Manuscript.nil.render).length _ = s from ?_]
    · rfl
    · rw [Manuscript.render, List.length_nil, Manuscript.text, List.zip_nil_left,
        ← advance_prose, advance_zero_self s hs]
  | atom a rest' ih =>
    obtain ⟨ha, hrest⟩ := h
    rw [← List.head?_append] at ha
    have hr : (Manuscript.atom a rest').render ++ rest = a.render ++ (rest'.render ++ rest) := by
      simp [Manuscript.render]
    rw [hr, outcome_atom hs ha, ih rfl hrest, pass_pass]
    congr 2
    · simp [Manuscript.render]
    · rw [Manuscript.text, Manuscript.origins, List.zip_append (by simp), zip_replicate,
        pass_offset]
  | group body rest' ihb ih =>
    obtain ⟨hbody, hrest⟩ := h
    have hr : (Manuscript.group body rest').render ++ rest =
        '{' :: (body.render ++ '}' :: (rest'.render ++ rest)) := by simp [Manuscript.render]
    have hin : ∀ t : State, t.phase = .prose → t.offset = s.offset + 1 →
        t.outcome (body.render ++ '}' :: (rest'.render ++ rest)) =
          (t.pass body.render.length (body.text.zip (body.origins (s.offset + 1)))).outcome
            ('}' :: (rest'.render ++ rest)) := by
      intro t ht ho
      rw [ihb ht (by exact hbody), ho]
    rw [hr, outcome_group hs hin, ih rfl hrest, pass_pass]
    congr 2
    · simp [Manuscript.render]
      omega
    · rw [Manuscript.text, Manuscript.origins, List.zip_append (by simp), pass_offset,
        Nat.add_assoc]
  | environment name body rest' ihb ih =>
    obtain ⟨ho, hc, hm, hbody, hrest⟩ := h
    have hr : (Manuscript.environment name body rest').render ++ rest =
        command "begin".toList name ++ (body.render ++ (command "end".toList name ++
          (rest'.render ++ rest))) := by simp [Manuscript.render]
    have hin : ∀ t : State, t.phase = .prose →
        t.offset = s.offset + (command "begin".toList name).length →
        t.outcome (body.render ++ (command "end".toList name ++ (rest'.render ++ rest))) =
          (t.pass body.render.length (body.text.zip (body.origins
            (s.offset + (command "begin".toList name).length)))).outcome
            (command "end".toList name ++ (rest'.render ++ rest)) := by
      intro t ht ho
      rw [ihb ht (by exact hbody), ho]
    rw [hr, outcome_environment hs ho hc hm hin, ih rfl hrest, pass_pass]
    congr 2
    · simp [Manuscript.render]
      omega
    · rw [Manuscript.text, Manuscript.origins, List.zip_append (by simp), pass_offset]
      simp only [Nat.add_assoc]

end State

/-- **Detexing reads a manuscript.** The source of a manuscript has no errors, its plain text is
the prose of the manuscript, and the char map leads to where the prose comes from. -/
theorem detex_render (d : Manuscript) (h : d.Fits none) :
    detex d.render = ⟨d.text, (d.origins 0).map some ++ [some d.render.length], []⟩ := by
  have hd : State.outcome init d.render = init.pass d.render.length (d.text.zip (d.origins 0)) := by
    have hread : init.outcome (d.render ++ []) = _ := State.outcome_manuscript rfl h
    rwa [List.append_nil] at hread
  have hout : (State.outcome init d.render).out.toList = d.text.zip (d.origins 0) := by
    rw [hd]
    simp [init]
  rw [State.detex_eq_outcome, hout, hd]
  congr 1
  · exact List.map_fst_zip (by simp)
  · rw [← Function.comp_def, ← List.map_map, List.map_snd_zip (by simp)]

/-- An environment with an optional argument and a group of two commands in it; then math, an
escape and a comment, one right after the other. -/
def sample : Manuscript :=
  .environment "a".toList
    (.atom (.reference "cite".toList ["p.~3".toList] [] (some "k".toList))
      (.group (.atom (.word "foo".toList false [])
        (.atom (.expansion "dots".toList "...".toList) .nil)) .nil))
    (.atom (.dollars "x".toList) (.atom (.symbol '%') (.atom (.comment "c".toList) .nil)))

def sampleSource : Text :=
  "\\begin\x7ba\x7d\\cite[p.~3]\x7bk\x7d\x7b\\foo\\dots\x7d\\end\x7ba\x7d$x$\\%%c\n".toList

theorem detex_render_sample :
    sample.Fits none ∧ detex sampleSource =
      ⟨"...%\n".toList, [some 28, some 28, some 28, some 44, some 48, some 49], []⟩ := by
  have hcite : (Atom.reference "cite".toList ["p.~3".toList] [] (some "k".toList)).Fits
      (some '{') := ⟨by decide_cbv, by simp [State.nested], by simp, by simp [State.nested]⟩
  have hfoo : (Atom.word "foo".toList false []).Fits (some '\\') :=
    ⟨by simp, by simp [Text.isLetter], by decide_cbv, by simp [Atom.EndsGap, State.isGap],
      by simp [State.EndsName, Text.isLetter]⟩
  have hdots : (Atom.expansion "dots".toList "...".toList).Fits (some '}') :=
    ⟨by decide_cbv, by simp [State.EndsName, Text.isLetter]⟩
  have hmath : (Atom.dollars "x".toList).Fits (some '\\') := by simp [Atom.Fits, State.inlineMath]
  have hsymbol : (Atom.symbol '%').Fits (some '%') := by simp [Atom.Fits, Text.isLetter]
  have hcomment : (Atom.comment "c".toList).Fits none := by simp [Atom.Fits]
  have hfits : sample.Fits none :=
    ⟨by simp, by simp, by decide_cbv, ⟨hcite, ⟨hfoo, hdots, trivial⟩, trivial⟩,
      ⟨hmath, hsymbol, hcomment, trivial⟩⟩
  have hsource : sample.render = sampleSource := by cbv
  have htext : sample.text = "...%\n".toList := by cbv
  have horigins : sample.origins 0 = [28, 28, 28, 44, 48] := by cbv
  have hd := detex_render sample hfits
  rw [hsource, htext, horigins] at hd
  exact ⟨hfits, hd⟩

end LatexReview.Detex
