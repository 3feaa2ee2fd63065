import Mathlib
import LatexReview.Proofs.Document.CommentSign
import LatexReview.Proofs.Style.Place

/-!
Findings in comments.

Numbers, addresses and references are flagged outside comments only. Figures and sections are
looked for as if there were no comments: a comment sign in front of a line silences none of what
is found in the line.
-/

namespace LatexReview.Style

open Text

variable {c : Config} {env : Environment} {d : Document} {path : Path} {line source : Text}
  {p : Problem} {offset : ℕ}

/-- The checks that pass over comments. -/
def commentAware : List Checker := [Numbers.checker, Addresses.checker, References.checker]

/-- The checks that read comments like any text. -/
def commentBlind : List Checker := [Figures.checker, Sections.checker]

lemma exists_showsAt_of_commentAware {checker : Checker} (hc : checker ∈ commentAware)
    (h : p ∈ checker.findings c env d) :
    ∃ offset, d.ShowsAt offset p ∧ d.isCommentedOut offset = false := by
  simp only [commentAware, List.mem_cons, List.not_mem_nil, or_false] at hc
  rcases hc with rfl | rfl | rfl
  · exact Numbers.exists_showsAt h
  · exact Addresses.exists_showsAt h
  · exact References.exists_showsAt h

/-! ### A comment sign in front of a line -/

lemma covers_percent (h : '\n' ∉ line) : Comment.covers ('%' :: line) = true := by
  have hsign : Comment.BeginsAt ('%' :: line) 0 := ⟨rfl, by simp [Comment.slashes]⟩
  exact Comment.covers_iff.2 ⟨0, hsign, by simpa using h⟩

lemma isCommentedOut_percent (path : Path) (h : '\n' ∉ line) (offset : ℕ) :
    (Document.ofSource path ('%' :: line)).isCommentedOut (1 + offset) = true := by
  have hbreak : '\n' ∉ line.take offset := fun hmem => h (List.mem_of_mem_take hmem)
  rw [Document.isCommentedOut, Document.source_ofSource, Nat.add_comm, List.take_succ_cons]
  exact covers_percent hbreak

namespace Figures

/-- The names of the labels in figures that nothing refers to, each with its offset. -/
def unreferenced (source : Text) : List (ℕ × Text) :=
  (figureLabels source).filter (·.2 ∉ referenced source)

lemma referenced_percent (source : Text) : referenced ('%' :: source) = referenced source := by
  have hmatches : reference.matchesIn ('%' :: source) =
      (reference.matchesIn source).map (Match.later 1) := Pattern.matchesIn_cons rfl
  rw [referenced, hmatches, List.flatMap_map]
  rfl

lemma figureLabels_percent (source : Text) :
    figureLabels ('%' :: source) = (figureLabels source).map fun l => (1 + l.1, l.2) := by
  have hmatches : figure.matchesIn ('%' :: source) =
      (figure.matchesIn source).map (Match.later 1) := Pattern.matchesIn_cons rfl
  rw [figureLabels, hmatches, List.flatMap_map, figureLabels, List.map_flatMap]
  simp only [List.map_map, Match.later, Nat.add_assoc]
  rfl

lemma unreferenced_percent (source : Text) :
    unreferenced ('%' :: source) = (unreferenced source).map fun l => (1 + l.1, l.2) := by
  rw [unreferenced, figureLabels_percent, referenced_percent, List.filter_map]
  rfl

lemma texts_problems (d : Document) :
    (problems d).map (·.text) = (unreferenced d.source).map (·.2) := by
  rw [problems, List.map_map]
  rfl

lemma texts_percent (path : Path) (source : Text) :
    (problems (.ofSource path ('%' :: source))).map (·.text) =
      (problems (.ofSource path source)).map (·.text) := by
  rw [texts_problems, texts_problems, Document.source_ofSource, Document.source_ofSource,
    unreferenced_percent, List.map_map]
  rfl

lemma exists_showsAt_percent (hline : '\n' ∉ line)
    (h : p ∈ problems (.ofSource path ('%' :: line))) :
    ∃ offset, (Document.ofSource path ('%' :: line)).ShowsAt offset p ∧
      (Document.ofSource path ('%' :: line)).isCommentedOut offset = true := by
  obtain ⟨label, hmem, rfl⟩ := List.mem_map.1 h
  have hlabel : label ∈ unreferenced ('%' :: line) := hmem
  have hholds := holdsAt_of_mem_figureLabels (List.mem_filter.1 hlabel).1
  rw [unreferenced_percent] at hlabel
  obtain ⟨inner, -, rfl⟩ := List.mem_map.1 hlabel
  exact ⟨1 + inner.1, Document.showsAt_build hholds rfl rfl,
    isCommentedOut_percent path hline inner.1⟩

end Figures

namespace Sections

lemma emptySection_percent (source : Text) :
    emptySection.matchesIn ('%' :: source) =
      (emptySection.matchesIn source).map (Match.later 1) := Pattern.matchesIn_cons rfl

lemma texts_percent (path : Path) (source : Text) :
    (problems (.ofSource path ('%' :: source))).map (·.text) =
      (problems (.ofSource path source)).map (·.text) := by
  rw [problems, problems, Document.source_ofSource, Document.source_ofSource,
    emptySection_percent, List.map_map, List.map_map, List.map_map]
  rfl

lemma exists_showsAt_percent (hline : '\n' ∉ line)
    (h : p ∈ problems (.ofSource path ('%' :: line))) :
    ∃ offset, (Document.ofSource path ('%' :: line)).ShowsAt offset p ∧
      (Document.ofSource path ('%' :: line)).isCommentedOut offset = true := by
  obtain ⟨m, hm, rfl⟩ := List.mem_map.1 h
  have hholds := holdsAt_title hm
  obtain ⟨inner, -, rfl⟩ : ∃ inner ∈ emptySection.matchesIn line, inner.later 1 = m := by
    rwa [Document.source_ofSource, emptySection_percent, List.mem_map] at hm
  refine ⟨_, Document.showsAt_build hholds rfl rfl, ?_⟩
  have hoffset : (inner.later 1).offset + (inner.later 1).value.1 =
      1 + (inner.offset + inner.value.1) := Nat.add_assoc ..
  rw [hoffset]
  exact isCommentedOut_percent path hline _

end Sections

/-! ### All checks -/

/-- **Three checks pass over comments, and two do not look at them.** What the three find stands
outside comments, and that is where its position leads. What the two find in a line they find
there just as well behind a comment sign, where all of it is in the comment. -/
theorem findings_and_comments (c : Config) (env : Environment) (path : Path) (source : Text) :
    (∀ checker ∈ commentAware, ∀ p ∈ checker.findings c env (.ofSource path source),
      ∃ offset, (Document.ofSource path source).ShowsAt offset p ∧
        (Document.ofSource path source).isCommentedOut offset = false ∧
        (source.length < 2 ^ 32 - 1 → ∀ position, p.position = some position →
          (Document.ofSource path source).sourceLines.offset? position = some offset)) ∧
    ∀ checker ∈ commentBlind, '\n' ∉ source →
      (checker.findings c env (.ofSource path ('%' :: source))).map (·.text) =
        (checker.findings c env (.ofSource path source)).map (·.text) ∧
      ∀ p ∈ checker.findings c env (.ofSource path ('%' :: source)),
        ∃ offset, (Document.ofSource path ('%' :: source)).ShowsAt offset p ∧
          (Document.ofSource path ('%' :: source)).isCommentedOut offset = true := by
  constructor
  · intro checker hc p hp
    obtain ⟨offset, hshows, hcomment⟩ := exists_showsAt_of_commentAware hc hp
    exact ⟨offset, hshows, hcomment, fun hs _ => hshows.offset?_eq hs⟩
  · intro checker hc hline
    simp only [commentBlind, List.mem_cons, List.not_mem_nil, or_false] at hc
    rcases hc with rfl | rfl
    · exact ⟨Figures.texts_percent path source,
        fun _ hp => Figures.exists_showsAt_percent hline hp⟩
    · exact ⟨Sections.texts_percent path source,
        fun _ hp => Sections.exists_showsAt_percent hline hp⟩

/-- A number, a section without text, and the number again in a comment. -/
def notedLine : Text := "1234 \\section\x7bA\x7d\\subsection % 1234".toList

theorem findings_and_comments_notedLine :
    Numbers.checker ∈ commentAware ∧ Sections.checker ∈ commentBlind ∧ '\n' ∉ notedLine ∧
      notedLine.length < 2 ^ 32 - 1 ∧
      (∃ p ∈ Numbers.checker.findings {} .empty (.ofSource [] notedLine),
        p.position = some ⟨1, 1⟩ ∧ ∃ offset,
          (Document.ofSource [] notedLine).isCommentedOut offset = false ∧
          (Document.ofSource [] notedLine).sourceLines.offset? ⟨1, 1⟩ = some offset) ∧
      ((Sections.checker.findings {} .empty (.ofSource [] ('%' :: notedLine))).map (·.text) =
        ["A".toList]) := by
  have haware : Numbers.checker ∈ commentAware := by simp [commentAware]
  have hblind : Sections.checker ∈ commentBlind := by simp [commentBlind]
  have hline : '\n' ∉ notedLine := by decide
  have hs : notedLine.length < 2 ^ 32 - 1 := by decide
  obtain ⟨houtside, hsame⟩ := findings_and_comments {} .empty [] notedLine
  refine ⟨haware, hblind, hline, hs, ?_, ?_⟩
  · have hfound : (Numbers.checker.findings {} .empty (.ofSource [] notedLine)).map (·.position) =
        [some ⟨1, 1⟩] := by decide +kernel
    obtain ⟨p, hp, hposition⟩ := List.mem_map.1 (hfound ▸ List.mem_singleton_self _)
    obtain ⟨offset, -, hcomment, hback⟩ := houtside _ haware p hp
    exact ⟨p, hp, hposition, offset, hcomment, hback hs _ hposition⟩
  · rw [(hsame _ hblind hline).1]
    decide +kernel

/-- A section and a figure that are commented out. -/
def retiredSource : Text :=
  ("% \\section\x7bOld\x7d\\subsection\n" ++
    "% \\begin\x7bfigure\x7d\\label\x7bf\x7d\\end\x7bfigure\x7d").toList

def retiredPage : Document := .ofSource "a.tex".toList retiredSource

/-- **Some findings stand in comments**: those of the two checks that do not look at them. -/
theorem retired_found :
    (∃ p ∈ Sections.checker.findings {} .empty retiredPage, p.position = some ⟨1, 12⟩ ∧
      retiredPage.sourceLines.offset? ⟨1, 12⟩ = some 11 ∧
      retiredPage.isCommentedOut 11 = true) ∧
    ∃ p ∈ Figures.checker.findings {} .empty retiredPage, p.position = some ⟨2, 24⟩ ∧
      retiredPage.sourceLines.offset? ⟨2, 24⟩ = some 50 ∧
      retiredPage.isCommentedOut 50 = true := by
  have hsection : (Sections.checker.findings {} .empty retiredPage).map (·.position) =
      [some ⟨1, 12⟩] := by decide +kernel
  have hfigure : (Figures.checker.findings {} .empty retiredPage).map (·.position) =
      [some ⟨2, 24⟩] := by decide +kernel
  obtain ⟨p, hp, hposition⟩ := List.mem_map.1 (hsection ▸ List.mem_singleton_self _)
  obtain ⟨q, hq, hposition'⟩ := List.mem_map.1 (hfigure ▸ List.mem_singleton_self _)
  exact ⟨⟨p, hp, hposition, by decide +kernel, by decide +kernel⟩,
    ⟨q, hq, hposition', by decide +kernel, by decide +kernel⟩⟩

end LatexReview.Style
