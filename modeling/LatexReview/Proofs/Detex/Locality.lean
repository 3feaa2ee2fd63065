import Mathlib
import LatexReview.Proofs.Detex.Flaws
import LatexReview.Proofs.Detex.Moved

/-!
Detexing is local.

The scan only ever looks at what it is in the middle of, and at offsets it wrote down itself.
So behind a text of some length it does what it does from the start, with that length added to
every offset. Where a text without errors ends with its line, the scan is back in prose with
nothing open, as it was before the text.
-/

namespace LatexReview.Detex

/-! ### Offsets moved behind a text -/

def Flaw.shift (n : ℕ) (flaw : Flaw) : Flaw := flaw.moved (n + ·)

namespace State

/-- The scan behind a text of `n` characters for which `written` has been written out. -/
def behind (n : ℕ) (written : Array (Char × ℕ)) (s : State) : State := s.moved (n + ·) written

variable (n : ℕ) (written : Array (Char × ℕ)) (s : State)

lemma run_behind (text : Text) :
    run (s.behind n written) text = (run s text).behind n written := by
  induction text generalizing s with
  | nil => rfl
  | cons c rest ih =>
    rw [run_cons, run_cons, behind, step_moved written (Nat.add_assoc n s.offset 1).symm]
    exact ih (step s c)

lemma settle_behind : (s.behind n written).settle = s.settle.behind n written :=
  settle_moved (n + ·) written s

lemma openFlaws_behind :
    (s.behind n written).openFlaws = s.openFlaws.map (·.shift n) :=
  openFlaws_moved (n + ·) written s

/-! ### The end of a line -/

lemma resume_newline : (s.resume '\n').phase = .prose := by
  unfold resume
  cases s.phase <;> rfl

end State

/-- What is a fault where the source ends in the middle of it. -/
def Phase.CutShort : Phase → Prop
  | .option .. | .group .. | .dollar .. | .math .. | .mathEscape .. | .skip .. => True
  | _ => False

namespace State

variable (s : State)

lemma flaws_settle_of_cutShort (h : s.phase.CutShort) : s.settle.flaws ≠ #[] := by
  have hreport (offset : ℕ) (fault : Fault) : (s.report offset fault).flaws ≠ #[] :=
    Array.push_ne_empty
  unfold settle
  cases hp : s.phase with
  | option | group | dollar | math | mathEscape | skip => exact hreport _ _
  | _ => simp [hp, Phase.CutShort] at h

lemma read_newline : (read s '\n').phase = .prose ∨ (read s '\n').phase.CutShort := by
  unfold read
  cases hp : s.phase with
  | name start letters => exact .inl (resume_newline _)
  | option opening depth =>
    right
    change (s.option opening depth '\n').phase.CutShort
    simp [option, hp, Phase.CutShort]
  | group | dollar | math | mathEscape => exact .inr trivial
  | skip start terminator fault passed =>
    dsimp only [skip]
    split
    · exact .inl rfl
    · exact .inr trivial
  | _ => exact .inl rfl

end State

/-! ### A text behind lines without errors -/

variable {a : Text}

/-- **At the end of lines without errors**, nothing is left of them but what they wrote. -/
lemma run_eq_behind (hend : a.Ended) (ha : flaws a = []) :
    run init a = init.behind a.length (run init a).out := by
  rcases hend.eq_nil_or_concat with rfl | ⟨body, rfl⟩
  · simp [init, State.behind, State.moved, Phase.moved]
  have hoffset := State.run_offset init (body ++ ['\n'])
  generalize hs : run init (body ++ ['\n']) = s at *
  have hphase : s.phase = .prose ∨ s.phase.CutShort := by
    rw [← hs, run_append]
    exact (run init body).read_newline
  obtain ⟨hflaws, hopen⟩ : s.settle.flaws = #[] ∧ s.settle.openFlaws = [] := by
    simpa [flaws, hs] using ha
  have hprose : s.phase = .prose :=
    hphase.resolve_right fun h => s.flaws_settle_of_cutShort h hflaws
  have hsettle : s.settle = s := by rw [State.settle, hprose]
  rw [hsettle] at hflaws hopen
  obtain ⟨hbraces, henvironments⟩ : s.braces = [] ∧ s.environments = [] := by
    simpa [State.openFlaws] using hopen
  obtain ⟨offset, phase, out, flaws, braces, environments⟩ := s
  simp_all [State.behind, State.moved, init, Phase.moved]

lemma settle_run_append (hend : a.Ended) (ha : flaws a = []) (b : Text) :
    (run init (a ++ b)).settle = (run init b).settle.behind a.length (run init a).out :=
  calc
    _ = (run (run init a) b).settle := by rw [run_append]
    _ = (run (init.behind a.length (run init a).out) b).settle := by
      rw [← run_eq_behind hend ha]
    _ = _ := by rw [State.run_behind, State.settle_behind]

lemma flaws_append (hend : a.Ended) (ha : flaws a = []) (b : Text) :
    flaws (a ++ b) = (flaws b).map (·.shift a.length) := by
  simp only [flaws, settle_run_append hend ha, State.openFlaws_behind, List.map_append]
  simp [State.behind, State.moved, Flaw.shift]

/-- The error some lines further down. -/
def ParseError.down (lines : ℕ) (e : ParseError) : ParseError :=
  { e with position := e.position.map (Position.down lines) }

lemma place_shift (hend : a.Ended) (b : Text) (flaw : Flaw) :
    (flaw.shift a.length).place (.ofText (a ++ b)) =
      (flaw.place (.ofText b)).down (a.count '\n') := by
  simp only [Flaw.place, Flaw.shift, Flaw.moved, ParseError.down,
    LineIndex.position?_append hend]

/-- **Detexing is local**: behind lines without errors, a text is detexed as it is by itself,
only further down. -/
theorem detex_append (hend : a.Ended) (ha : (detex a).errors = []) (b : Text) :
    (detex (a ++ b)).plain = (detex a).plain ++ (detex b).plain ∧
      (detex (a ++ b)).charMap =
        (detex a).charMap.dropLast ++ (detex b).charMap.map (Option.map (a.length + ·)) ∧
      (detex (a ++ b)).errors = (detex b).errors.map (ParseError.down (a.count '\n')) := by
  have hflaws : flaws a = [] := by simpa [errors_detex] using ha
  have hout (b : Text) : (run init (a ++ b)).settle.out = (run init a).out ++
      (run init b).settle.out.map (Prod.map id (a.length + ·)) := by
    rw [settle_run_append hend hflaws]
    rfl
  have hself : (run init a).settle.out = (run init a).out := by
    simpa [init, State.settle] using hout []
  refine ⟨?_, ?_, ?_⟩
  · simp [detex, hout b, hself, Function.comp_def]
  · simp [detex, hout b, hself, Function.comp_def]
  · simp only [errors_detex, flaws_append hend hflaws, List.map_map, Function.comp_def,
      place_shift hend]

/-- Three lines with a command, a comment, math and an environment. -/
def chapter : Text :=
  "\\emph\x7bA\x7d % gone\n\\begin\x7bp\x7d$x$\\dots\n\\end\x7bp\x7d\n".toList

/-- A text with a brace too many, and an environment and math that are never closed. -/
def addendum : Text := "a \x7d b\n\\begin\x7bq\x7d $z".toList

theorem detex_append_addendum :
    chapter.Ended ∧ (detex chapter).errors = [] ∧
      (detex (chapter ++ addendum)).plain = "A \n...\n\na  b\n ".toList ∧
      (detex (chapter ++ addendum)).charMap =
        [6, 8, 15, 28, 28, 28, 33, 41, 42, 43, 45, 46, 47, 57, 60].map some ∧
      (detex (chapter ++ addendum)).errors =
        [⟨some ⟨4, 3⟩, .unmatchedClosingBrace⟩, ⟨some ⟨5, 11⟩, .unclosedDollar⟩,
          ⟨some ⟨5, 1⟩, .unclosedEnvironment "q".toList⟩] := by
  have hend : chapter.Ended := .inr (by cbv)
  have hchapter : detex chapter =
      ⟨"A \n...\n\n".toList, [6, 8, 15, 28, 28, 28, 33, 41, 42].map some, []⟩ := by cbv
  have haddendum : detex addendum =
      ⟨"a  b\n ".toList, [0, 1, 3, 4, 5, 15, 18].map some,
        [⟨some ⟨1, 3⟩, .unmatchedClosingBrace⟩, ⟨some ⟨2, 11⟩, .unclosedDollar⟩,
          ⟨some ⟨2, 1⟩, .unclosedEnvironment "q".toList⟩]⟩ := by cbv
  have hlines : chapter.count '\n' = 3 := by cbv
  have hlength : chapter.length = 42 := by cbv
  have herrors : (detex chapter).errors = [] := by rw [hchapter]
  obtain ⟨hplain, hmap, hdown⟩ := detex_append hend herrors addendum
  rw [hchapter, haddendum] at hplain
  rw [hchapter, haddendum, hlength] at hmap
  rw [haddendum, hlines] at hdown
  exact ⟨hend, herrors, hplain, hmap, hdown⟩

end LatexReview.Detex
