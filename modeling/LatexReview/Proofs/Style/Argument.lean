import Mathlib
import LatexReview.Style.Check
import LatexReview.Proofs.Text.Braces

/-!
Places in the argument of a command.

The argument that a place is in is that of the innermost group open there, as the braces before
the place match. The checks look at the last opening brace alone. That is the one of the
innermost open group unless a group has been closed in it; then they see no argument.
-/

namespace LatexReview.Style

open Text

variable {commands : List Text} {before outer inner : Text}

/-- The innermost group that is open behind a text is the argument of a command, of those given
with their opening brace. -/
def InArgumentOf (commands : List Text) (before : Text) : Prop :=
  ∃ i, before.loneOpenings.getLast? = some i ∧ ∃ command ∈ commands, command <:+ before.take (i + 1)

lemma openGroup?_of_not_mem (h : '{' ∉ before) : openGroup? before = none := by
  have hdrop : before.reverse.dropWhile (· ≠ '{') = [] := by
    refine List.dropWhile_eq_nil_iff.2 fun c hc => ?_
    simpa using ne_of_mem_of_not_mem (List.mem_reverse.1 hc) h
  unfold openGroup?
  dsimp only
  rw [hdrop]
  split <;> rfl

lemma openGroup?_append (h : '{' ∉ inner) :
    openGroup? (outer ++ '{' :: inner) =
      if '}' ∈ inner then none else some ('{' :: outer.reverse) := by
  have hback : (outer ++ '{' :: inner).reverse = inner.reverse ++ '{' :: outer.reverse := by simp
  have hinner : ∀ c ∈ inner.reverse, decide (c ≠ '{') = true := fun c hc => by
    simpa using ne_of_mem_of_not_mem (List.mem_reverse.1 hc) h
  unfold openGroup?
  dsimp only
  rw [hback, List.takeWhile_append_of_pos hinner, List.dropWhile_append_of_pos hinner]
  simp

lemma isInsideArgumentOf_append (h : '{' ∉ inner) :
    isInsideArgumentOf commands (outer ++ '{' :: inner) = true ↔
      '}' ∉ inner ∧ ∃ command ∈ commands, command <:+ outer ++ ['{'] := by
  have hends : ∀ command : Text,
      command.reverse <+: '{' :: outer.reverse ↔ command <:+ outer ++ ['{'] := fun command => by
    rw [← List.reverse_prefix, List.reverse_append, List.reverse_singleton, List.singleton_append]
  rw [isInsideArgumentOf, openGroup?_append h]
  by_cases hclose : '}' ∈ inner
  · simp [hclose]
  · simp [hclose, List.isPrefixOf_iff_prefix, hends]

lemma exists_last_openBrace (h : '{' ∈ before) :
    ∃ outer inner : Text, before = outer ++ '{' :: inner ∧ '{' ∉ inner := by
  obtain ⟨back, front, hback, hnone⟩ := List.eq_append_cons_of_mem (List.mem_reverse.2 h)
  refine ⟨front.reverse, back.reverse, ?_, by simpa using hnone⟩
  rw [← List.reverse_inj, hback]
  simp

/-- **A place is found to be in an argument** just when the innermost group open there is one of
a command, and no group has been closed in it. -/
theorem isInsideArgumentOf_iff (commands : List Text) (before : Text) :
    isInsideArgumentOf commands before = true ↔
      InArgumentOf commands before ∧
        ∀ i, before.loneOpenings.getLast? = some i → '}' ∉ before.drop i := by
  have hupto : ∀ outer inner : Text,
      (outer ++ '{' :: inner).take (outer.length + 1) = outer ++ ['{'] := by
    intro outer inner
    simp [List.take_append]
  constructor
  · intro h
    by_cases hopen : '{' ∈ before
    · obtain ⟨outer, inner, rfl, hinner⟩ := exists_last_openBrace hopen
      obtain ⟨hclose, command, hmem, hends⟩ := (isInsideArgumentOf_append hinner).1 h
      have hlast : (outer ++ '{' :: inner).loneOpenings.getLast? = some outer.length :=
        endsInGroup_iff_getLast?.1
          ⟨outer, inner, rfl, rfl, balanced_of_not_mem hinner hclose⟩
      refine ⟨⟨outer.length, hlast, command, hmem, by rwa [hupto]⟩, fun i hi => ?_⟩
      obtain rfl : outer.length = i := Option.some.inj (hlast.symm.trans hi)
      simpa using hclose
    · rw [isInsideArgumentOf, openGroup?_of_not_mem hopen] at h
      cases h
  · rintro ⟨⟨i, hi, command, hmem, hends⟩, hnone⟩
    obtain ⟨outer, inner, rfl, rfl, hbalanced⟩ := endsInGroup_iff_getLast?.2 hi
    have hclose : '}' ∉ inner := by simpa using hnone _ hi
    have hinner : '{' ∉ inner := by
      rw [← List.count_eq_zero, ← hbalanced.eq, List.count_eq_zero]
      exact hclose
    rw [hupto] at hends
    exact (isInsideArgumentOf_append hinner).2 ⟨hclose, command, hmem, hends⟩

/-- A number behind a group, both in one argument. -/
def groupedNumber : Text := "\\num\x7b\x7b1\x7d2345\x7d".toList

/-- **A group closed in an argument** makes it unseen: the number behind it is reported. -/
theorem groupedNumber_found :
    InArgumentOf verbatimCommands (groupedNumber.take 8) ∧
      isInsideArgumentOf verbatimCommands (groupedNumber.take 8) = false ∧
      (Numbers.problems (.ofSource [] groupedNumber)).map (fun p => (p.text, p.position)) =
        [("2345".toList, some ⟨1, 9⟩)] := by
  have hinnermost : Text.loneOpenings (groupedNumber.take 8) = [4] := by decide +kernel
  have hcommand : "\\num\x7b".toList ∈ verbatimCommands := by decide +kernel
  have hends : "\\num\x7b".toList <:+ (groupedNumber.take 8).take 5 := by decide +kernel
  exact ⟨⟨4, by rw [hinnermost]; rfl, _, hcommand, hends⟩, by decide +kernel, by decide +kernel⟩

end LatexReview.Style
