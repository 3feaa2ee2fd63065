import Mathlib
import LatexReview.Proofs.Detex.Construct
import LatexReview.Proofs.Detex.Flaws

/-!
A mistake with one environment is one error.

Where the end of an environment is missing, the scan has one name more open than the source
means, until an end further out meets that name: it is reported, and closed along with the
environment it stands in. From there on the scan has open what the source means. Where an end
is too many, it is reported and nothing else changes.
-/

namespace LatexReview.Detex

/-- A piece of a source that has no markup but environments. -/
inductive Mark where
  | char (c : Char)
  | opens (name : Text)
  | closes (name : Text)

namespace Mark

def render : Mark → Text
  | char c => [c]
  | opens name => command "begin".toList name
  | closes name => command "end".toList name

def Fits : Mark → Prop
  | char c => c ∉ "%\\{}$".toList
  | opens name => '{' ∉ name ∧ '}' ∉ name ∧ name ∉ mathEnvironments
  | closes name => '{' ∉ name ∧ '}' ∉ name

/-- The names of the open environments behind a mark, innermost first. An end is for the
innermost one. -/
def behind? (names : List Text) : Mark → Option (List Text)
  | char _ => some names
  | opens name => some (name :: names)
  | closes name =>
    match names with
    | inner :: outer => if inner = name then some outer else none
    | [] => none

end Mark

def renderMarks (marks : List Mark) : Text := marks.flatMap Mark.render

/-- The names of the open environments behind a row of marks. -/
def openBehind (names : List Text) (marks : List Mark) : Option (List Text) :=
  marks.foldlM Mark.behind? names

/-- Each environment ends within the one it starts in. -/
def ProperlyNested (marks : List Mark) : Prop := openBehind [] marks = some []

lemma renderMarks_append (a b : List Mark) :
    renderMarks (a ++ b) = renderMarks a ++ renderMarks b := List.flatMap_append

lemma openBehind_append (names : List Text) (a b : List Mark) :
    openBehind names (a ++ b) = (openBehind names a).bind (openBehind · b) :=
  List.foldlM_append

lemma openBehind_cons_eq_some {names after : List Text} {m : Mark} {marks : List Mark} :
    openBehind names (m :: marks) = some after ↔
      ∃ next, m.behind? names = some next ∧ openBehind next marks = some after := by
  rw [openBehind, List.foldlM_cons]
  exact Option.bind_eq_some_iff

lemma openBehind_append_eq_some {names after : List Text} {a b : List Mark} :
    openBehind names (a ++ b) = some after ↔
      ∃ next, openBehind names a = some next ∧ openBehind next b = some after := by
  rw [openBehind_append, Option.bind_eq_some_iff]

namespace State

variable {s : State} {names next : List Text} {m : Mark} {marks : List Mark} {n : ℕ}

/-! ### Reading marks -/

/-- The scan behind a mark. -/
def readMark (s : State) : Mark → State
  | .char c => s.pass 1 [(if c = '~' then ' ' else c, s.offset)]
  | .opens name =>
    (s.pass (command "begin".toList name).length []).openEnvironment name s.offset
  | .closes name =>
    (s.pass (command "end".toList name).length []).closeEnvironment name s.offset

def readMarks (s : State) (marks : List Mark) : State := marks.foldl readMark s

lemma readMarks_append (s : State) (a b : List Mark) :
    s.readMarks (a ++ b) = (s.readMarks a).readMarks b := List.foldl_append

/-- The names of the environments that the scan has open. -/
def openNames (s : State) : List Text := s.environments.map (·.1)

/-- What the end of an environment is taken for where another one is innermost, or none. -/
def strayFault (names : List Text) (name : Text) : Fault :=
  match names with
  | [] => .strayEnd name
  | inner :: _ => .crossedEnvironment inner name

lemma readMark_phase (h : m.Fits) : (s.readMark m).phase = .prose := by
  cases m with
  | char c => rfl
  | opens name => simp [readMark, openEnvironment, h.2.2, enter]
  | closes name =>
    unfold readMark closeEnvironment
    dsimp only
    split
    · rfl
    split
    · rfl
    split <;> rfl

lemma readMark_offset : (s.readMark m).offset = s.offset + m.render.length := by
  cases m with
  | char c => rfl
  | opens name => exact endGroup_offset _ (.opens s.offset) name
  | closes name => exact endGroup_offset _ (.closes s.offset) name

lemma readMark_braces : (s.readMark m).braces = s.braces := by
  cases m with
  | char c => rfl
  | opens name =>
    unfold readMark openEnvironment
    dsimp only
    split <;> rfl
  | closes name =>
    unfold readMark closeEnvironment
    dsimp only
    split
    · rfl
    split
    · rfl
    split <;> rfl

lemma readMarks_offset : (s.readMarks marks).offset = s.offset + (renderMarks marks).length := by
  induction marks generalizing s with
  | nil => rfl
  | cons m marks ih =>
    have hcons : s.readMarks (m :: marks) = (s.readMark m).readMarks marks := rfl
    have hrender : renderMarks (m :: marks) = m.render ++ renderMarks marks := rfl
    rw [hcons, ih, readMark_offset, hrender, List.length_append, Nat.add_assoc]

lemma readMarks_braces : (s.readMarks marks).braces = s.braces := by
  induction marks generalizing s with
  | nil => rfl
  | cons m marks ih => exact ih.trans readMark_braces

lemma outcome_mark {rest : Text} (hs : s.phase = .prose) (h : m.Fits) :
    s.outcome (m.render ++ rest) = (s.readMark m).outcome rest := by
  cases m with
  | char c =>
    by_cases hc : c = '~'
    · subst hc
      exact outcome_tie hs
    · have hmarkup : c ∉ markup := by
        simp [Mark.Fits] at h
        simp [markup, h, hc]
      rw [readMark, if_neg hc]
      exact outcome_char hs hmarkup
  | opens name => exact outcome_begin hs h.1 h.2.1
  | closes name => exact outcome_end hs h.1 h.2

lemma outcome_marks {rest : Text} (hs : s.phase = .prose) (h : ∀ m ∈ marks, m.Fits) :
    s.outcome (renderMarks marks ++ rest) = (s.readMarks marks).outcome rest := by
  induction marks generalizing s with
  | nil => rfl
  | cons m marks ih =>
    rw [renderMarks, List.flatMap_cons, List.append_assoc, outcome_mark hs (h m (by simp))]
    exact ih (readMark_phase (h m (by simp))) fun other ho => h other (by simp [ho])

lemma readMarks_phase (hs : s.phase = .prose) (hfits : ∀ m ∈ marks, m.Fits) :
    (s.readMarks marks).phase = .prose := by
  induction marks generalizing s with
  | nil => exact hs
  | cons m marks ih =>
    exact ih (readMark_phase (hfits m (by simp))) fun other ho => hfits other (by simp [ho])

/-! ### Environments that are open -/

lemma openNames_readMark (hs : s.openNames = names) (hm : m.behind? names = some next)
    (hfits : m.Fits) :
    (s.readMark m).openNames = next ∧ (s.readMark m).flaws = s.flaws := by
  cases m with
  | char c =>
    obtain rfl : names = next := Option.some.inj hm
    exact ⟨hs, rfl⟩
  | opens name =>
    obtain rfl : name :: names = next := Option.some.inj hm
    have hread : (s.readMark (.opens name)).environments = (name, s.offset) :: s.environments ∧
        (s.readMark (.opens name)).flaws = s.flaws := by
      simp [readMark, openEnvironment, hfits.2.2, enter]
    refine ⟨?_, hread.2⟩
    rw [openNames, hread.1, List.map_cons, ← hs, openNames]
  | closes name =>
    subst hs
    rcases henv : s.environments with _ | ⟨⟨inner, opening⟩, outer⟩
    · simp [Mark.behind?, openNames, henv] at hm
    · obtain ⟨rfl, rfl⟩ : inner = name ∧ outer.map (·.1) = next := by
        simpa [Mark.behind?, openNames, henv] using hm
      simp [readMark, closeEnvironment, henv, openNames, enter]

lemma openNames_readMarks (hs : s.openNames = names) (hm : openBehind names marks = some next)
    (hfits : ∀ m ∈ marks, m.Fits) :
    (s.readMarks marks).openNames = next ∧ (s.readMarks marks).flaws = s.flaws := by
  induction marks generalizing s names with
  | nil =>
    obtain rfl : names = next := Option.some.inj hm
    exact ⟨hs, rfl⟩
  | cons m marks ih =>
    obtain ⟨middle, hfirst, hrest⟩ := openBehind_cons_eq_some.1 hm
    obtain ⟨hnames, hflaws⟩ := openNames_readMark hs hfirst (hfits m (by simp))
    obtain ⟨hnames', hflaws'⟩ := ih hnames hrest fun other ho => hfits other (by simp [ho])
    exact ⟨hnames', hflaws'.trans hflaws⟩

/-! ### An end that is missing -/

lemma openNames_readMark_around {inner name : Text} (hs : s.openNames = inner :: name :: next)
    (hne : inner ≠ name) : (s.readMark (.closes name)).openNames = next ∧
      (s.readMark (.closes name)).flaws.size = s.flaws.size + 1 := by
  obtain ⟨opening, start, outer, henv, rfl⟩ : ∃ opening start outer,
      s.environments = (inner, opening) :: (name, start) :: outer ∧ outer.map (·.1) = next := by
    unfold openNames at hs
    rcases henv : s.environments with _ | ⟨⟨a, opening⟩, _ | ⟨⟨b, start⟩, outer⟩⟩
    · simp [henv] at hs
    · simp [henv] at hs
    · obtain ⟨rfl, rfl, hnext⟩ : a = inner ∧ b = name ∧ outer.map (·.1) = next := by
        simpa [henv] using hs
      exact ⟨opening, start, outer, rfl, hnext⟩
  simp [readMark, closeEnvironment, henv, hne, openNames, report, enter]

/-- The scan has one name more open than the source means, and has reported as many faults
as given; or it has open what the source means, and has reported one fault more. -/
inductive Lags (s : State) (names : List Text) (n : ℕ) : Prop where
  | behind {inner outer : List Text} {name : Text} (hnames : names = inner ++ outer)
    (hs : s.openNames = inner ++ name :: outer) (hflaws : s.flaws.size = n)
  | even (hs : s.openNames = names) (hflaws : s.flaws.size = n + 1)

lemma Lags.readMark (h : s.Lags names n) (hm : m.behind? names = some next) (hfits : m.Fits) :
    (s.readMark m).Lags next n := by
  cases h with
  | even hs hflaws =>
    obtain ⟨hnames, heq⟩ := openNames_readMark hs hm hfits
    exact .even hnames (by rw [heq, hflaws])
  | @behind inner outer name hnames hs hflaws =>
    cases m with
    | char c =>
      obtain rfl : names = next := Option.some.inj hm
      exact .behind hnames hs hflaws
    | opens other =>
      obtain rfl : other :: names = next := Option.some.inj hm
      have hopen : (Mark.opens other).behind? s.openNames = some (other :: s.openNames) := rfl
      obtain ⟨hread, heq⟩ := openNames_readMark rfl hopen hfits
      rw [hs, ← List.cons_append] at hread
      exact .behind (by rw [hnames, List.cons_append]) hread (by rw [heq, hflaws])
    | closes other =>
      obtain rfl : names = other :: next := by
        cases names with
        | nil => simp [Mark.behind?] at hm
        | cons first rest =>
          obtain ⟨rfl, rfl⟩ : first = other ∧ rest = next := by simpa [Mark.behind?] using hm
          rfl
      rcases inner with _ | ⟨first, inner⟩
      · rw [List.nil_append] at hnames hs
        subst hnames
        by_cases hname : name = other
        · -- The name too many is taken for the one that ends here, and that one stays.
          subst hname
          have hclose :
              (Mark.closes name).behind? (name :: name :: next) = some (name :: next) := by
            simp [Mark.behind?]
          obtain ⟨hread, heq⟩ := openNames_readMark hs hclose hfits
          exact .behind (List.nil_append next).symm hread (by rw [heq, hflaws])
        · obtain ⟨hread, hsize⟩ := openNames_readMark_around hs hname
          exact .even hread (by rw [hsize, hflaws])
      · obtain ⟨rfl, rfl⟩ : other = first ∧ next = inner ++ outer := by simpa using hnames
        have hclose : (Mark.closes other).behind? (other :: (inner ++ name :: outer)) =
            some (inner ++ name :: outer) := by simp [Mark.behind?]
        obtain ⟨hread, heq⟩ := openNames_readMark hs hclose hfits
        exact .behind rfl hread (by rw [heq, hflaws])

/-- **A name too many** stays the only one, until it is reported. -/
lemma Lags.readMarks (h : s.Lags names n) (hm : openBehind names marks = some next)
    (hfits : ∀ m ∈ marks, m.Fits) : (s.readMarks marks).Lags next n := by
  induction marks generalizing s names with
  | nil =>
    obtain rfl : names = next := Option.some.inj hm
    exact h
  | cons m marks ih =>
    obtain ⟨middle, hfirst, hrest⟩ := openBehind_cons_eq_some.1 hm
    refine ih (h.readMark hfirst (hfits m (by simp))) hrest fun other ho => ?_
    exact hfits other (List.mem_cons_of_mem m ho)

lemma Lags.length_flaws (h : s.Lags [] n) (hbraces : s.braces = []) :
    (s.flaws.toList ++ s.openFlaws).length = n + 1 := by
  have hopen : s.openFlaws.length = s.openNames.length := by simp [openFlaws, hbraces, openNames]
  rw [List.length_append, hopen, Array.length_toList]
  cases h with
  | behind hnames hs hflaws =>
    obtain ⟨rfl, rfl⟩ := List.nil_eq_append_iff.1 hnames
    simp [hs, hflaws]
  | even hs hflaws => simp [hs, hflaws]

/-! ### An end that is too many -/

lemma readMark_stray {name : Text} (h : name ∉ s.openNames) :
    (s.readMark (.closes name)).openNames = s.openNames ∧
      (s.readMark (.closes name)).flaws =
        s.flaws.push ⟨s.offset, strayFault s.openNames name⟩ := by
  rcases henv : s.environments with _ | ⟨⟨inner, opening⟩, outer⟩
  · simp [readMark, closeEnvironment, henv, openNames, report, enter, strayFault]
  · obtain ⟨hne, houter⟩ : name ≠ inner ∧ name ∉ outer.map (·.1) := by
      simpa [openNames, henv] using h
    have hnone : outer.dropWhile (fun e => !decide (e.1 = name)) = [] := by
      refine List.dropWhile_eq_nil_iff.2 fun e he => ?_
      have hother : e.1 ≠ name := fun heq => houter (heq ▸ List.mem_map_of_mem he)
      simpa using hother
    simp [readMark, closeEnvironment, henv, hne.symm, hnone, openNames, report, enter, strayFault]

end State

/-! ### One mistake -/

variable {before after marks : List Mark} {names : List Text} {z : Text}

lemma flaws_renderMarks (hfits : ∀ m ∈ marks, m.Fits) :
    flaws (renderMarks marks) =
      (init.readMarks marks).flaws.toList ++ (init.readMarks marks).openFlaws := by
  have hread : init.outcome (renderMarks marks) = init.readMarks marks := by
    rw [← List.append_nil (renderMarks marks), State.outcome_marks rfl hfits,
      State.outcome_nil (State.readMarks_phase rfl hfits)]
  rw [flaws_eq_outcome, hread]

lemma length_flaws_of_missing {n : Text} (hfits : ∀ m ∈ before ++ after, m.Fits)
    (h : ProperlyNested (before ++ .closes n :: after)) :
    (flaws (renderMarks (before ++ after))).length = 1 := by
  obtain ⟨names, hbefore, hclose⟩ := openBehind_append_eq_some.1 h
  obtain ⟨rest, hn, hafter⟩ := openBehind_cons_eq_some.1 hclose
  obtain rfl : names = n :: rest := by
    cases names with
    | nil => simp [Mark.behind?] at hn
    | cons first others =>
      obtain ⟨rfl, rfl⟩ : first = n ∧ others = rest := by simpa [Mark.behind?] using hn
      rfl
  have hfits' : ∀ m ∈ before, m.Fits := fun m hm => hfits m (List.mem_append_left _ hm)
  obtain ⟨hnames, hflaws⟩ := State.openNames_readMarks (s := init) rfl hbefore hfits'
  -- The scan still has the name open whose end is missing.
  have hlags : (init.readMarks before).Lags rest 0 :=
    .behind (List.nil_append rest).symm hnames (by rw [hflaws]; rfl)
  have hend := hlags.readMarks hafter fun m hm => hfits m (List.mem_append_right _ hm)
  rw [← State.readMarks_append] at hend
  rw [flaws_renderMarks hfits]
  exact hend.length_flaws State.readMarks_braces

lemma flaws_of_stray (hfits : ∀ m ∈ before ++ after, m.Fits) (ho : '{' ∉ z) (hc : '}' ∉ z)
    (h : ProperlyNested (before ++ after)) (hnames : openBehind [] before = some names)
    (hz : z ∉ names) : flaws (renderMarks (before ++ .closes z :: after)) =
      [⟨(renderMarks before).length, State.strayFault names z⟩] := by
  have hafter : openBehind names after = some [] := by
    obtain ⟨names', hnames', hrest⟩ := openBehind_append_eq_some.1 h
    obtain rfl := Option.some.inj (hnames.symm.trans hnames')
    exact hrest
  have hfitsBefore : ∀ m ∈ before, m.Fits := fun m hm => hfits m (List.mem_append_left _ hm)
  have hfitsAfter : ∀ m ∈ after, m.Fits := fun m hm => hfits m (List.mem_append_right _ hm)
  have hfitsAll : ∀ m ∈ before ++ .closes z :: after, m.Fits := by
    intro m hm
    rcases List.mem_append.1 hm with hm | hm
    · exact hfitsBefore m hm
    · rcases List.mem_cons.1 hm with rfl | hm
      · exact ⟨ho, hc⟩
      · exact hfitsAfter m hm
  obtain ⟨hopen, hflaws⟩ := State.openNames_readMarks (s := init) rfl hnames hfitsBefore
  have hoffset : (init.readMarks before).offset = (renderMarks before).length := by
    rw [State.readMarks_offset]
    exact Nat.zero_add _
  have hstray : z ∉ (init.readMarks before).openNames := by rwa [hopen]
  obtain ⟨hopen', hflaws'⟩ := State.readMark_stray hstray
  obtain ⟨hopen'', hflaws''⟩ := State.openNames_readMarks (hopen'.trans hopen) hafter hfitsAfter
  have hread : init.readMarks (before ++ .closes z :: after) =
      ((init.readMarks before).readMark (.closes z)).readMarks after := by
    rw [State.readMarks_append]
    rfl
  have hnone : (init.readMarks (before ++ .closes z :: after)).openFlaws = [] := by
    have hbraces : (init.readMarks (before ++ .closes z :: after)).braces = [] :=
      State.readMarks_braces
    rw [← hread] at hopen''
    simpa [State.openFlaws, hbraces, State.openNames] using hopen''
  rw [flaws_renderMarks hfitsAll, hnone, hread, hflaws'', hflaws', hflaws, hoffset, hopen]
  rfl

/-- **One mistake is one error**: a source of properly nested environments has one error if
the end of one of them is taken out, and one if an end is put in where no environment of that
name is open, and that is where it stands. -/
theorem errors_of_one_mistake (hfits : ∀ m ∈ before ++ after, m.Fits) :
    (∀ n, ProperlyNested (before ++ .closes n :: after) →
      (detex (renderMarks (before ++ after))).errors.length = 1) ∧
    ∀ z names, '{' ∉ z → '}' ∉ z → ProperlyNested (before ++ after) →
      openBehind [] before = some names → z ∉ names →
      ∃ line column, (renderMarks (before ++ .closes z :: after)).PlaceAt line column
          (renderMarks before).length ∧
        (detex (renderMarks (before ++ .closes z :: after))).errors =
          [⟨some (.ofCounts line column), State.strayFault names z⟩] := by
  constructor
  · intro n h
    rw [errors_detex, List.length_map, length_flaws_of_missing hfits h]
  · intro z names ho hc h hnames hz
    have hinside : (renderMarks before).length ≤
        (renderMarks (before ++ .closes z :: after)).length := by
      rw [renderMarks_append, List.length_append]
      exact Nat.le_add_right _ _
    obtain ⟨line, column, hplace⟩ := Text.exists_placeAt hinside
    refine ⟨line, column, hplace, ?_⟩
    rw [errors_detex, flaws_of_stray hfits ho hc h hnames hz, List.map_singleton, Flaw.place,
      LineIndex.position?_of_placeAt hplace]

theorem errors_of_one_mistake_inner :
    let outer := [Mark.opens "a".toList]
    let inner := outer ++ [.opens "b".toList, .char 'x']
    let rest := [Mark.closes "a".toList]
    (∀ m ∈ inner ++ rest, m.Fits) ∧ ProperlyNested (inner ++ .closes "b".toList :: rest) ∧
      (detex "\\begin\x7ba\x7d\\begin\x7bb\x7dx\\end\x7ba\x7d".toList).errors.length = 1 ∧
      ProperlyNested (outer ++ rest) ∧ openBehind [] outer = some ["a".toList] ∧
      (detex "\\begin\x7ba\x7d\\end\x7bb\x7d\\end\x7ba\x7d".toList).errors =
        [⟨some ⟨1, 10⟩, .crossedEnvironment "a".toList "b".toList⟩] := by
  intro outer inner rest
  have hfits : ∀ m ∈ inner ++ rest, m.Fits := by
    simp [inner, outer, rest, Mark.Fits, mathEnvironments]
  have hfits' : ∀ m ∈ outer ++ rest, m.Fits := by
    simp [outer, rest, Mark.Fits, mathEnvironments]
  have hinner : ProperlyNested (inner ++ .closes "b".toList :: rest) := by
    unfold ProperlyNested
    cbv
  have houter : ProperlyNested (outer ++ rest) := by
    unfold ProperlyNested
    cbv
  have hopen : openBehind [] outer = some ["a".toList] := by cbv
  obtain ⟨line, column, hplace, herrors⟩ := (errors_of_one_mistake hfits').2 "b".toList _
    (by simp) (by simp) houter hopen (by simp)
  obtain rfl : line = 1 := by
    rw [hplace.line_eq]
    cbv
  obtain rfl : column = 10 := by
    rw [hplace.column_eq]
    cbv
  exact ⟨hfits, hinner, (errors_of_one_mistake hfits).1 _ hinner, houter, hopen, herrors⟩

end LatexReview.Detex
