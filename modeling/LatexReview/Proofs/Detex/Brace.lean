import Mathlib
import LatexReview.Proofs.Detex.Construct
import LatexReview.Proofs.Detex.Flaws
import LatexReview.Proofs.Text.Braces

/-!
Faults of a source whose only structure are braces.

In such a source the scan stays in prose. It has open the opening braces that have no partner in
what it has read, and has reported the closing ones that have none. At the end those are the
faults of the source.
-/

namespace LatexReview.Detex

variable {source : Text}

/-- A character that, behind a backslash, stands for itself or for a space. -/
def isLiteral (c : Char) : Bool := c ∈ escapable || c = '\\' || c = ' '

/-- A source without math and comments, in which every backslash escapes the character behind
it. -/
def bracesOnly : Text → Bool
  | [] => true
  | ['\\'] => false
  | '\\' :: c :: rest => isLiteral c && bracesOnly rest
  | c :: rest => c ≠ '$' && c ≠ '%' && bracesOnly rest

/-- A source with a blank for each character that a backslash escapes. -/
def hideEscaped : Text → Text
  | '\\' :: _ :: rest => '\\' :: ' ' :: hideEscaped rest
  | c :: rest => c :: hideEscaped rest
  | [] => []

/-- A fault of a source, reported with the line and the column of an offset. -/
def errorAt (source : Text) (fault : Fault) (offset : ℕ) : ParseError :=
  ⟨some (.ofCounts ((source.take offset).count '\n' + 1)
    ((Comment.lastLine (source.take offset)).length + 1)), fault⟩

lemma not_isLetter_of_isLiteral {c : Char} (h : isLiteral c) :
    Text.isLetter c = false ∧ c ≠ '(' ∧ c ≠ '[' := by
  have hall : ∀ c ∈ escapable ++ ['\\', ' '], Text.isLetter c = false ∧ c ≠ '(' ∧ c ≠ '[' := by
    -- Not over all characters, of which there are finitely many as well.
    rw [← List.forall_iff_forall_mem]
    decide
  exact hall c (by simpa [isLiteral, or_assoc] using h)

lemma hideEscaped_cons {c : Char} (h : c ≠ '\\') (rest : Text) :
    hideEscaped (c :: rest) = c :: hideEscaped rest := by
  rw [hideEscaped]
  rintro d tail rfl
  exact absurd rfl h

lemma length_hideEscaped (source : Text) : (hideEscaped source).length = source.length := by
  fun_induction hideEscaped source with
  | case1 c rest ih => simp [ih]
  | case2 c rest hpair ih => simp [ih]
  | case3 => rfl

lemma place_eq_errorAt {offset : ℕ} (fault : Fault) (h : offset ≤ source.length) :
    Flaw.place (.ofText source) ⟨offset, fault⟩ = errorAt source fault offset := by
  rw [Flaw.place, errorAt, LineIndex.position?_of_placeAt ⟨h, rfl, rfl⟩]

namespace State

variable {s : State} {t : Text}

/-- The scan keeps the lone braces of what it has read. -/
structure Tracks (s : State) (t : Text) : Prop where
  phase : s.phase = .prose
  offset : s.offset = t.length
  environments : s.environments = []
  braces : s.braces = t.loneOpenings.reverse
  flaws : s.flaws.toList = t.loneClosings.map (⟨·, .unmatchedClosingBrace⟩)

lemma tracks_init : init.Tracks [] := ⟨rfl, rfl, rfl, rfl, rfl⟩

lemma Tracks.pass (h : s.Tracks t) (passed : Text) (ho : '{' ∉ passed) (hc : '}' ∉ passed)
    (pairs : List (Char × ℕ)) : (s.pass passed.length pairs).Tracks (t ++ passed) where
  phase := rfl
  offset := by rw [pass_offset, h.offset, List.length_append]
  environments := h.environments
  braces := by rw [pass_braces, h.braces, (Text.lone_append ho hc).2]
  flaws := by rw [pass_flaws, h.flaws, (Text.lone_append ho hc).1]

lemma Tracks.openBrace (h : s.Tracks t) : (step s '{').Tracks (t ++ ['{']) := by
  rw [step_openBrace h.phase]
  constructor
  case phase => rfl
  case offset => simp [h.offset]
  case environments => exact h.environments
  case braces => simp [Text.loneOpenings_concat_of_ne, h.braces, h.offset]
  case flaws => simp [Text.loneClosings_concat_of_ne, h.flaws]

lemma step_strayBrace (hs : s.phase = .prose) (hb : s.braces = []) :
    step s '}' = (s.pass 1 []).report s.offset .unmatchedClosingBrace := by
  simp [step, read, hs, prose, hb, enter, report, State.pass, advance, write]

lemma Tracks.closeBrace (h : s.Tracks t) : (step s '}').Tracks (t ++ ['}']) := by
  have hmade := t.madeUp
  rw [← h.braces] at hmade
  rcases hb : s.braces with _ | ⟨o, outer⟩
  · rw [hb] at hmade
    obtain ⟨hclosings, hopenings⟩ := Text.lone_concat_stray hmade
    rw [step_strayBrace h.phase hb]
    constructor
    case phase => rfl
    case offset => simp [h.offset]
    case environments => exact h.environments
    case braces =>
      rw [hopenings, ← h.braces]
      rfl
    case flaws => simp [hclosings, report, h.flaws, h.offset]
  · rw [hb] at hmade
    obtain ⟨hclosings, hopenings⟩ := Text.lone_concat_close hmade (by rw [← h.braces, hb])
    rw [step_closeBrace h.phase hb]
    constructor
    case phase => rfl
    case offset => simp [h.offset]
    case environments => exact h.environments
    case braces => rw [hopenings, List.reverse_reverse]
    case flaws => simp [hclosings, h.flaws]

lemma Tracks.char (h : s.Tracks t) {c : Char} (hslash : c ≠ '\\') (hdollar : c ≠ '$')
    (hpercent : c ≠ '%') (rest : Text) :
    ∃ next : State, next.Tracks (t ++ [c]) ∧ s.outcome (c :: rest) = next.outcome rest := by
  by_cases hopen : c = '{'
  · subst hopen
    exact ⟨_, h.openBrace, outcome_cons s _ _⟩
  by_cases hclose : c = '}'
  · subst hclose
    exact ⟨_, h.closeBrace, outcome_cons s _ _⟩
  have hpass : ∀ pairs, (s.pass 1 pairs).Tracks (t ++ [c]) :=
    h.pass [c] (by simpa using Ne.symm hopen) (by simpa using Ne.symm hclose)
  by_cases htie : c = '~'
  · subst htie
    exact ⟨_, hpass _, outcome_tie h.phase⟩
  · have hprose : c ∉ markup := by simp [markup, *]
    exact ⟨_, hpass _, outcome_char h.phase hprose⟩

lemma Tracks.outcome (h : s.Tracks t) (hsource : bracesOnly source) :
    (s.outcome source).Tracks (t ++ hideEscaped source) := by
  fun_induction bracesOnly source generalizing s t with
  | case1 =>
    rw [outcome_nil h.phase, hideEscaped, List.append_nil]
    exact h
  | case2 => simp at hsource
  | case3 c rest ih =>
    obtain ⟨hc, hrest⟩ : isLiteral c = true ∧ bracesOnly rest = true := by simpa using hsource
    obtain ⟨hletter, hparen, hbracket⟩ := not_isLetter_of_isLiteral hc
    have hpass : (s.pass 2 ((symbolText c).map (·, s.offset))).Tracks (t ++ ['\\', ' ']) :=
      h.pass ['\\', ' '] (by simp) (by simp) _
    have happend : t ++ '\\' :: ' ' :: hideEscaped rest =
        t ++ ['\\', ' '] ++ hideEscaped rest := by simp
    rw [outcome_symbol h.phase hletter hparen hbracket, hideEscaped, happend]
    exact ih hpass hrest
  | case4 c rest hone hpair ih =>
    have hslash : c ≠ '\\' := by
      rintro rfl
      cases rest with
      | nil => exact hone rfl rfl
      | cons d rest => exact hpair d rest rfl rfl
    obtain ⟨⟨hdollar, hpercent⟩, hrest⟩ : (c ≠ '$' ∧ c ≠ '%') ∧ bracesOnly rest = true := by
      simpa using hsource
    obtain ⟨next, hnext, houtcome⟩ := h.char hslash hdollar hpercent rest
    rw [houtcome, hideEscaped_cons hslash, List.append_cons]
    exact ih hnext hrest

end State

/-- **Brace errors are the lone braces**, escaped ones apart: first the closing braces without a
partner, then the opening ones, each from left to right and where it stands. There are none just
when the braces are balanced. -/
theorem errors_of_braces (h : bracesOnly source) :
    (detex source).errors =
        (hideEscaped source).loneClosings.map (errorAt source .unmatchedClosingBrace) ++
          (hideEscaped source).loneOpenings.map (errorAt source .unclosedBrace) ∧
      ((detex source).errors = [] ↔ (hideEscaped source).Balanced) := by
  have htracks := State.tracks_init.outcome h
  rw [List.nil_append] at htracks
  have hopen : (init.outcome source).openFlaws =
      (hideEscaped source).loneOpenings.map (⟨·, .unclosedBrace⟩) := by
    rw [State.openFlaws, htracks.environments, htracks.braces, List.reverse_reverse]
    simp
  have hplace : ∀ (fault : Fault) (offsets : List ℕ),
      (∀ o ∈ offsets, o < (hideEscaped source).length) →
      offsets.map (Flaw.place (.ofText source) ∘ fun o => ⟨o, fault⟩) =
        offsets.map (errorAt source fault) := by
    intro fault offsets hlt
    refine List.map_congr_left fun o ho => place_eq_errorAt fault ?_
    exact length_hideEscaped source ▸ (hlt o ho).le
  have herrors : (detex source).errors =
      (hideEscaped source).loneClosings.map (errorAt source .unmatchedClosingBrace) ++
        (hideEscaped source).loneOpenings.map (errorAt source .unclosedBrace) := by
    rw [errors_detex, flaws_eq_outcome, hopen, htracks.flaws, List.map_append, List.map_map,
      List.map_map, hplace, hplace]
    · exact fun o => Text.lt_length_of_mem_loneOpenings
    · exact fun o => Text.lt_length_of_mem_loneClosings
  refine ⟨herrors, ?_⟩
  rw [herrors, List.append_eq_nil_iff, List.map_eq_nil_iff, List.map_eq_nil_iff,
    Text.balanced_iff]

/-- An escaped brace, one too many, and a group in one that is never closed. -/
def unevenSource : Text := "\\\x7b\x7d\n\x7ba\x7bb\x7d".toList

theorem errors_of_braces_uneven :
    bracesOnly unevenSource ∧
      (detex unevenSource).errors =
        [⟨some ⟨1, 3⟩, .unmatchedClosingBrace⟩, ⟨some ⟨2, 1⟩, .unclosedBrace⟩] ∧
      ¬ (hideEscaped unevenSource).Balanced := by
  have hsource : bracesOnly unevenSource := by decide
  have hclosings : (hideEscaped unevenSource).loneClosings = [2] := by decide +kernel
  have hopenings : (hideEscaped unevenSource).loneOpenings = [4] := by decide +kernel
  obtain ⟨herrors, hbalanced⟩ := errors_of_braces hsource
  rw [hclosings, hopenings] at herrors
  refine ⟨hsource, herrors, fun h => ?_⟩
  simpa [herrors] using hbalanced.2 h

end LatexReview.Detex
