import Mathlib
import LatexReview.Problem.Draft
import LatexReview.Proofs.Text.Fields

/-!
What a uid tells of its problem.

A numeral, a position and a row of separated parts can each be read back. So problems of one
uid agree in every part that the uid is made of, and are one finding, as long as no part holds
the separator; for problems of one file, whatever the name of the file.
-/

namespace LatexReview

namespace Position

lemma render_injective : Function.Injective render := by
  intro p q h
  have hcolon : ∀ n : ℕ, ':' ∉ Text.numeral n := Text.not_mem_numeral (by decide)
  obtain ⟨hline, hcolumn⟩ := Text.append_separator_inj (hcolon _) (hcolon _) h
  have hl : p.line = q.line := UInt32.toNat_inj.1 (Text.numeral_injective hline)
  have hc : p.column = q.column := UInt32.toNat_inj.1 (Text.numeral_injective hcolumn)
  cases p
  cases q
  simp_all

lemma not_mem_render {c : Char} (hd : c.isDigit = false) (hc : c ≠ ':') (p : Position) :
    c ∉ p.render := by
  simp [render, Text.not_mem_numeral hd, hc]

lemma render_ne_none (p : Position) : p.render ≠ "None".toList := by
  intro h
  have hn : 'N' ∈ p.render := by simp [h]
  exact p.not_mem_render (by decide) (by decide) hn

lemma render_getD_injective :
    Function.Injective fun p : Option Position => (p.map render).getD "None".toList := by
  rintro (_ | p) (_ | q) h
  · rfl
  · exact absurd h.symm q.render_ne_none
  · exact absurd h p.render_ne_none
  · exact congrArg some (render_injective h)

end Position

namespace Problem

variable {p q : Problem}

/-! ### Uids -/

/-- A problem that leaves the separator of uids alone. -/
structure Separable (p : Problem) : Prop where
  file : unitSeparator ∉ p.file
  checker : unitSeparator ∉ p.checker
  category : ∀ category ∈ p.category, unitSeparator ∉ category
  problemType : unitSeparator ∉ p.problemType

lemma not_mem_positionPart (p : Problem) :
    unitSeparator ∉ (p.position.map Position.render).getD "None".toList := by
  cases p.position with
  | none => decide
  | some position => exact position.not_mem_render (by decide) (by decide)

lemma Separable.not_mem_part (h : p.Separable) : ∀ part ∈ p.uidParts, unitSeparator ∉ part := by
  have hcategory : unitSeparator ∉ p.category.getD "None".toList := by
    cases hc : p.category with
    | none => decide
    | some category => exact h.category category hc
  have hlength : unitSeparator ∉ Text.numeral p.length := Text.not_mem_numeral (by decide) _
  intro part hpart
  simp only [uidParts, List.mem_cons, List.not_mem_nil, or_false] at hpart
  rcases hpart with rfl | rfl | rfl | rfl | rfl | rfl
  · exact h.file
  · exact h.checker
  · exact hcategory
  · exact h.problemType
  · exact p.not_mem_positionPart
  · exact hlength

/-- **The parts of a uid can be read off it.** -/
lemma uid_eq_iff (hp : p.Separable) (hq : q.Separable) : p.uid = q.uid ↔ p.uidParts = q.uidParts :=
  Text.join_inj hp.not_mem_part hq.not_mem_part (by simp [uidParts]) (by simp [uidParts])

lemma Separable.checker_eq (hp : p.Separable) (hq : q.Separable) (h : p.uid = q.uid) :
    p.checker = q.checker := by
  have hparts := (uid_eq_iff hp hq).1 h
  simp only [uidParts, List.cons.injEq] at hparts
  exact hparts.2.1

/-! ### Uids in one file -/

lemma checker_eq_of_file_eq (hfile : p.file = q.file) (hp : unitSeparator ∉ p.checker)
    (hq : unitSeparator ∉ q.checker) (h : p.uid = q.uid) : p.checker = q.checker := by
  have hhead : ∀ r : Problem, r.uid = r.file ++ unitSeparator :: (r.checker ++
      unitSeparator :: Text.join [unitSeparator] r.uidParts.tail.tail) := by
    intro r
    simp [uid, uidParts, Text.join, List.intercalate]
  rw [hhead p, hhead q, hfile, List.append_cancel_left_eq, List.cons.injEq, eq_self,
    true_and] at h
  exact (Text.append_separator_inj hp hq h).1

lemma uid_eq_iff_of_alike (hfile : p.file = q.file) (hchecker : p.checker = q.checker)
    (hcategory : p.category = q.category) (htype : p.problemType = q.problemType) :
    p.uid = q.uid ↔ p.position = q.position ∧ p.length = q.length := by
  have htail : ∀ r : Problem, r.uid = Text.join [unitSeparator] [r.file, r.checker,
      r.category.getD "None".toList, r.problemType] ++ unitSeparator ::
        ((r.position.map Position.render).getD "None".toList ++
          unitSeparator :: Text.numeral r.length) := by
    intro r
    simp [uid, uidParts, Text.join, List.intercalate]
  rw [htail p, htail q, hfile, hchecker, hcategory, htype, List.append_cancel_left_eq,
    List.cons.injEq, eq_self, true_and]
  constructor
  · intro h
    obtain ⟨hpos, hlength⟩ :=
      Text.append_separator_inj p.not_mem_positionPart q.not_mem_positionPart h
    exact ⟨Position.render_getD_injective hpos, Text.numeral_injective hlength⟩
  · rintro ⟨hpos, hlength⟩
    rw [hpos, hlength]

/-! ### Uids of findings -/

lemma uidParts_eq_iff :
    p.uidParts = q.uidParts ↔
      p.file = q.file ∧ p.checker = q.checker ∧ p.problemType = q.problemType ∧
        p.position = q.position ∧ p.length = q.length ∧
        p.category.getD "None".toList = q.category.getD "None".toList := by
  have hposition : (p.position.map Position.render).getD "None".toList =
      (q.position.map Position.render).getD "None".toList ↔ p.position = q.position :=
    Position.render_getD_injective.eq_iff
  have hlength : Text.numeral p.length = Text.numeral q.length ↔ p.length = q.length :=
    Text.numeral_injective.eq_iff
  simp only [uidParts, List.cons.injEq, hposition, hlength, and_true]
  tauto

/-- **A uid identifies a finding.** Two built problems have one uid just when they are of one
file, checker and type, at one position, of one length and of one category, where no category
counts as the one named `None`. -/
theorem Draft.uid_eq_uid_iff {a b : Draft} (ha : a.build.Separable) (hb : b.build.Separable) :
    a.build.uid = b.build.uid ↔
      a.build.file = b.build.file ∧ a.build.checker = b.build.checker ∧
        a.build.problemType = b.build.problemType ∧ a.build.position = b.build.position ∧
        a.build.length = b.build.length ∧
        a.build.category.getD "None".toList = b.build.category.getD "None".toList :=
  (uid_eq_iff ha hb).trans uidParts_eq_iff

/-- A finding with signs of positions and keys in all its names. -/
def colonDraft : Draft where
  checker := "2:1".toList
  text := "a\nb".toList
  file := "1:2/None".toList
  position := some ⟨1, 12⟩
  problemType := "None".toList

theorem Draft.uid_eq_uid_colonDraft :
    colonDraft.build.Separable ∧
      { colonDraft with category := some "None".toList }.build.Separable ∧
      { colonDraft with position := some ⟨11, 2⟩ }.build.Separable ∧
      colonDraft.build.uid = { colonDraft with category := some "None".toList }.build.uid ∧
      colonDraft.build.uid ≠ { colonDraft with position := some ⟨11, 2⟩ }.build.uid := by
  have h : colonDraft.build.Separable :=
    ⟨by decide, by decide, by simp [colonDraft, build], by decide⟩
  have hnamed : { colonDraft with category := some "None".toList }.build.Separable :=
    ⟨by decide, by decide, by decide, by decide⟩
  have helsewhere : { colonDraft with position := some ⟨11, 2⟩ }.build.Separable :=
    ⟨by decide, by decide, by simp [colonDraft, build], by decide⟩
  refine ⟨h, hnamed, helsewhere, (uid_eq_uid_iff h hnamed).2 (by decide), fun heq => ?_⟩
  obtain ⟨-, -, -, hposition, -⟩ := (uid_eq_uid_iff h helsewhere).1 heq
  exact absurd hposition (by decide)

end Problem

end LatexReview
