import Mathlib
import LatexReview.Style.Check
import LatexReview.Proofs.Aggregate.Merge
import LatexReview.Proofs.Document.Place

/-!
Where the findings of the style checks stand.

Some checks flag a whole match, some a part that is read off it, and one a part of a match in
another match. Each finding shows its text at its place, so its position leads there.
-/

namespace LatexReview.Style

open Text

variable {c : Config} {env : Environment} {d : Document} {path : Path} {source s name after : Text}
  {p : Problem}

def checkers : List Checker :=
  [Figures.checker, Numbers.checker, Sections.checker, Addresses.checker, References.checker]

lemma argument_eq_some {command : Text}
    (h : ((s.stripStart? command).bind group?) = some (name, after)) :
    s = command ++ '{' :: (name ++ '}' :: after) := by
  obtain ⟨rest, hcommand, hgroup⟩ := Option.bind_eq_some_iff.1 h
  rw [stripStart?_eq_some_iff.1 hcommand, (group?_eq_some hgroup).1]

/-! ### Figures -/

namespace Figures

lemma holdsAt_label {m : Match Text} (h : m ∈ label.matchesIn s) :
    s.HoldsAt (m.offset + "\\label\x7b".length) m.value := by
  obtain ⟨start, rest, after, rfl, hoffset, hread⟩ := Pattern.exists_of_mem_ofReader h
  have hrest := argument_eq_some hread
  refine ⟨start ++ "\\label\x7b".toList, '}' :: after, ?_, ?_⟩
  · rw [hrest]
    simp
  · rw [List.length_append, hoffset]
    rfl

lemma holdsAt_of_mem_figureLabels {offset : ℕ} (h : (offset, name) ∈ figureLabels source) :
    source.HoldsAt offset name := by
  obtain ⟨f, hf, h⟩ := List.mem_flatMap.1 h
  obtain ⟨l, hl, hpair⟩ := List.mem_map.1 h
  obtain ⟨rfl, rfl⟩ := Prod.mk.inj hpair
  rw [Nat.add_assoc]
  exact (Pattern.holdsAt_of_mem_matchesIn hf).trans (holdsAt_label hl)

lemma exists_showsAt (h : p ∈ problems d) : ∃ offset, d.ShowsAt offset p := by
  obtain ⟨⟨offset, name⟩, hmem, rfl⟩ := List.mem_map.1 h
  have hlabel := holdsAt_of_mem_figureLabels (List.mem_filter.1 hmem).1
  exact ⟨offset, Document.showsAt_build hlabel rfl rfl⟩

end Figures

/-! ### Sections -/

namespace Sections

lemma holdsAt_title {m : Match (ℕ × Text)} (h : m ∈ emptySection.matchesIn s) :
    s.HoldsAt (m.offset + m.value.1) m.value.2 := by
  obtain ⟨start, rest, after, rfl, hoffset, hread⟩ := Pattern.exists_of_mem_ofReader h
  obtain ⟨tail, hsection, hread⟩ := Option.bind_eq_some_iff.1 hread
  obtain ⟨⟨title, behind⟩, hgroup, hread⟩ := Option.bind_eq_some_iff.1 hread
  obtain ⟨last, -, hread⟩ := Option.bind_eq_some_iff.1 hread
  have hvalue : (rest.length - (dropOne '*' tail).length + 1, title) = m.value :=
    (Prod.mk.inj (Option.some.inj hread)).1
  rw [← hvalue, hoffset]
  -- What precedes the opening brace is the command, perhaps with a star.
  obtain ⟨command, hcommand⟩ : ∃ command, rest = command ++ dropOne '*' tail := by
    rw [stripStart?_eq_some_iff.1 hsection]
    rcases dropOne_cases '*' tail with hstar | hplain
    · exact ⟨"\\section*".toList, by simpa using hstar⟩
    · exact ⟨"\\section".toList, by rw [← hplain]⟩
  rw [hcommand, (group?_eq_some hgroup).1]
  refine ⟨start ++ (command ++ ['{']), '}' :: behind, by simp, ?_⟩
  simp only [List.length_append, List.length_cons, List.length_nil]
  omega

lemma exists_showsAt (h : p ∈ problems d) : ∃ offset, d.ShowsAt offset p := by
  obtain ⟨m, hm, rfl⟩ := List.mem_map.1 h
  exact ⟨m.offset + m.value.1, Document.showsAt_build (holdsAt_title hm) rfl rfl⟩

end Sections

/-! ### Whole matches outside comments -/

namespace Numbers

lemma mem_inProse {α : Type} {commands : List Text} {ms : List (Match α)} {m : Match α}
    (h : m ∈ inProse commands d ms) : m ∈ ms ∧ d.isCommentedOut m.offset = false := by
  obtain ⟨hm, hprose⟩ := List.mem_filter.1 h
  simp only [Bool.and_eq_true, Bool.not_eq_true'] at hprose
  exact ⟨hm, hprose.1⟩

lemma exists_showsAt_of_mem_inProse {α : Type} {commands : List Text} {q : Pattern α} {m : Match α}
    {e : Problem.Draft} (h : m ∈ inProse commands d (q.matchesIn d.source))
    (htext : e.text = m.text) (hposition : e.position = d.position? m.offset)
    (hlength : e.length = none) :
    ∃ offset, d.ShowsAt offset e.build ∧ d.isCommentedOut offset = false := by
  obtain ⟨hm, hcomment⟩ := mem_inProse h
  have hholds : d.source.HoldsAt m.offset e.text := by
    rw [htext]
    exact Pattern.holdsAt_of_mem_matchesIn hm
  exact ⟨m.offset, Document.showsAt_build hholds hposition hlength, hcomment⟩

lemma exists_showsAt (h : p ∈ problems d) :
    ∃ offset, d.ShowsAt offset p ∧ d.isCommentedOut offset = false := by
  rcases List.mem_append.1 h with h | h
  · obtain ⟨m, hm, rfl⟩ := List.mem_map.1 h
    exact exists_showsAt_of_mem_inProse hm rfl rfl rfl
  · obtain ⟨m, hm, rfl⟩ := List.mem_map.1 h
    exact exists_showsAt_of_mem_inProse hm rfl rfl rfl

end Numbers

namespace Addresses

lemma exists_showsAt (h : p ∈ problems d) :
    ∃ offset, d.ShowsAt offset p ∧ d.isCommentedOut offset = false := by
  obtain ⟨m, hm, rfl⟩ := List.mem_map.1 h
  exact Numbers.exists_showsAt_of_mem_inProse hm rfl rfl rfl

end Addresses

namespace References

lemma holdsAt_ref {m : Match Text} (h : m ∈ plainReference.matchesIn s) :
    s.HoldsAt m.offset "\\ref".toList := by
  obtain ⟨start, rest, after, rfl, hoffset, hread⟩ := Pattern.exists_of_mem_ofReader h
  exact ⟨start, _, by rw [argument_eq_some hread], hoffset⟩

lemma exists_showsAt (h : p ∈ problems d) :
    ∃ offset, d.ShowsAt offset p ∧ d.isCommentedOut offset = false := by
  obtain ⟨m, hm, rfl⟩ := List.mem_map.1 h
  obtain ⟨hm, hcomment⟩ := List.mem_filter.1 hm
  exact ⟨m.offset, Document.showsAt_build (holdsAt_ref hm) rfl rfl, by simpa using hcomment⟩

end References

/-! ### All checks -/

lemma exists_showsAt {checker : Checker} (hc : checker ∈ checkers)
    (h : p ∈ checker.findings c env d) : ∃ offset, d.ShowsAt offset p := by
  simp only [checkers, List.mem_cons, List.not_mem_nil, or_false] at hc
  rcases hc with rfl | rfl | rfl | rfl | rfl
  · exact Figures.exists_showsAt h
  · exact (Numbers.exists_showsAt h).imp fun _ => And.left
  · exact Sections.exists_showsAt h
  · exact (Addresses.exists_showsAt h).imp fun _ => And.left
  · exact (References.exists_showsAt h).imp fun _ => And.left

/-- **The flagged text stands where it is reported.** The position of a finding with a text leads
to an offset of the source at which this text stands, also when the offset is told in bytes; and
the finding is as long as its text. -/
theorem findings_stand_in_place (hs : source.length < 2 ^ 32 - 1) {checker : Checker}
    (hc : checker ∈ checkers)
    (h : p ∈ checker.findings c env (Document.ofSource path source)) (htext : p.text ≠ []) :
    ∃ position offset, p.position = some position ∧
      (Document.ofSource path source).sourceLines.offset? position = some offset ∧
      p.text <+: source.drop offset ∧ p.length = p.text.length ∧
      (Document.ofSource path source).positionOfByte? (byteLength (source.take offset)) =
        some position := by
  obtain ⟨offset, hshows⟩ := exists_showsAt hc h
  obtain ⟨position, hposition, hback⟩ := hshows.exists_position htext hs
  exact ⟨position, offset, hposition, hback, hshows.text.isPrefix_drop, hshows.length,
    (hshows.positionOfByte?_eq htext).trans hposition⟩

/-- Long characters before a figure and in it. -/
def umlautSource : Text :=
  "Größe\n\\begin\x7bfigure*\x7d é\n\\label\x7bä:b\x7d\\end\x7bfigure\x7d".toList

theorem findings_stand_in_place_umlaut :
    umlautSource.length < 2 ^ 32 - 1 ∧ Figures.checker ∈ checkers ∧
      ∃ p ∈ Figures.checker.findings {} .empty (Document.ofSource "a.tex".toList umlautSource),
        p.text = "ä:b".toList ∧ p.text ≠ [] ∧ p.position = some ⟨3, 8⟩ ∧
        ∃ position offset, p.position = some position ∧
          (Document.ofSource "a.tex".toList umlautSource).sourceLines.offset? position =
            some offset ∧
          p.text <+: umlautSource.drop offset ∧ p.length = p.text.length ∧
          (Document.ofSource "a.tex".toList umlautSource).positionOfByte?
            (byteLength (umlautSource.take offset)) = some position := by
  have hs : umlautSource.length < 2 ^ 32 - 1 := by decide
  have hc : Figures.checker ∈ checkers := by simp [checkers]
  have hfound : (Figures.checker.findings {} .empty
      (Document.ofSource "a.tex".toList umlautSource)).map (fun p => (p.text, p.position)) =
        [("ä:b".toList, some ⟨3, 8⟩)] := by decide +kernel
  obtain ⟨p, hp, hpair⟩ := List.mem_map.1 (hfound ▸ List.mem_singleton_self _)
  obtain ⟨htext, hposition⟩ := Prod.mk.inj hpair
  have hne : p.text ≠ [] := by simp [htext]
  exact ⟨hs, hc, p, hp, htext, hne, hposition, findings_stand_in_place hs hc hp hne⟩

end LatexReview.Style
