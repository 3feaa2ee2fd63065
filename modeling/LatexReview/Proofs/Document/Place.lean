import Mathlib
import LatexReview.Problem.Draft
import LatexReview.Document.Basic
import LatexReview.Proofs.LineIndex
import LatexReview.Proofs.Text.Matches

/-!
Problems that show their text in a document.

A place in a source can be told in characters and in bytes, and has one position either way. A
problem shows its text at a place if the text stands there and the problem has its position; the
position leads back to the place.
-/

namespace LatexReview

variable {d : Document} {path : Path} {source before rest : Text} {offset : ℕ} {p : Problem}

namespace Document

@[simp] lemma source_ofSource (path : Path) (source : Text) :
    (ofSource path source).source = source := rfl

@[simp] lemma path_ofSource (path : Path) (source : Text) :
    (ofSource path source).path = path := rfl

@[simp] lemma sourceLines_ofSource (path : Path) (source : Text) :
    (ofSource path source).sourceLines = .ofText source := rfl

/-! ### Bytes -/

lemma charsBefore?_byteLength (before rest : Text) :
    charsBefore? (before ++ rest) (Text.byteLength before) = some before.length := by
  induction before with
  | nil => simp [Text.byteLength, charsBefore?]
  | cons c before ih =>
    have hlength : Text.byteLength (c :: before) = c.utf8Size + Text.byteLength before := rfl
    have hpos : 0 < c.utf8Size := c.utf8Size_pos
    obtain ⟨bytes, hbytes⟩ : ∃ bytes, c.utf8Size + Text.byteLength before = bytes + 1 :=
      ⟨c.utf8Size + Text.byteLength before - 1, by omega⟩
    have hrest : bytes + 1 - c.utf8Size = Text.byteLength before := by omega
    rw [hlength, hbytes, List.cons_append, charsBefore?, if_pos (by omega), hrest, ih]
    rfl

lemma positionOfByte?_byteLength (h : d.source = before ++ rest) :
    d.positionOfByte? (Text.byteLength before) = d.position? before.length := by
  rw [positionOfByte?, h, charsBefore?_byteLength]
  rfl

/-! ### Problems in their places -/

/-- The text of a problem stands in a document, and the problem says where, unless the text is
empty. -/
structure ShowsAt (d : Document) (offset : ℕ) (p : Problem) : Prop where
  text : d.source.HoldsAt offset p.text
  position : p.position = if p.text = [] then none else d.position? offset
  length : p.length = p.text.length

lemma showsAt_build {e : Problem.Draft} (htext : d.source.HoldsAt offset e.text)
    (hposition : e.position = d.position? offset) (hlength : e.length = none) :
    d.ShowsAt offset e.build where
  text := htext
  position := by simp [Problem.Draft.build, hposition]
  length := by simp [Problem.Draft.build, hlength]

namespace ShowsAt

lemma position_eq (h : d.ShowsAt offset p) (htext : p.text ≠ []) :
    p.position = d.position? offset := by
  rw [h.position, if_neg htext]

lemma positionOfByte?_eq (h : d.ShowsAt offset p) (htext : p.text ≠ []) :
    d.positionOfByte? (Text.byteLength (d.source.take offset)) = p.position := by
  obtain ⟨before, after, hsource, hoffset⟩ := h.text
  have htake : d.source.take offset = before := by rw [hsource, hoffset, List.take_left]
  rw [htake, positionOfByte?_byteLength hsource, h.position_eq htext, hoffset]

/-- **The position of a text leads back to where it stands.** -/
lemma exists_position (h : (ofSource path source).ShowsAt offset p) (htext : p.text ≠ [])
    (hs : source.length < 2 ^ 32 - 1) :
    ∃ position, p.position = some position ∧
      (ofSource path source).sourceLines.offset? position = some offset := by
  have hle : offset ≤ source.length := le_trans (Nat.le_add_right _ _) h.text.add_length_le
  obtain ⟨position, hposition, hback⟩ := LineIndex.offset_position_ofText hs hle
  exact ⟨position, (h.position_eq htext).trans hposition, hback⟩

lemma offset?_eq (h : (ofSource path source).ShowsAt offset p)
    (hs : source.length < 2 ^ 32 - 1) {position : Position} (hp : p.position = some position) :
    (ofSource path source).sourceLines.offset? position = some offset := by
  have htext : p.text ≠ [] := by
    intro hempty
    rw [h.position, if_pos hempty] at hp
    simp at hp
  obtain ⟨other, hother, hback⟩ := h.exists_position htext hs
  rw [hp, Option.some.injEq] at hother
  rw [hother, hback]

end ShowsAt

end Document

end LatexReview
