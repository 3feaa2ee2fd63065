import Mathlib
import LatexReview.Proofs.LineIndex

/-!
Offsets and positions of a text as two names for its places.

The starts of the lines ascend, so the line of an offset is found where the starts pass it. The
positions that an index gives are those it takes, each for one offset, and they are in the order
of their offsets. What is looked up and taken away on the way is there.
-/

namespace LatexReview.LineIndex

variable {ix : LineIndex} {s : Text} {i start offset offset' : ℕ} {p q : Position}

/-! ### Starts of lines -/

lemma pairwise_startsAfter (s : Text) (offset : ℕ) :
    (startsAfter offset s).Pairwise (· < ·) := by
  induction s generalizing offset with
  | nil => exact List.Pairwise.nil
  | cons c rest ih =>
    rw [startsAfter]
    split
    · exact (ih (offset + 1)).cons fun next hnext => (mem_startsAfter hnext).1
    · exact ih (offset + 1)

lemma pairwise_starts (s : Text) : (ofText s).starts.Pairwise (· < ·) :=
  (pairwise_startsAfter s 0).cons fun _ hnext => (mem_startsAfter hnext).1

lemma le_length_of_mem_starts (h : start ∈ (ofText s).starts) : start ≤ s.length := by
  rcases List.mem_cons.1 h with rfl | h
  · exact Nat.zero_le _
  · have := (mem_startsAfter h).2
    omega

lemma start_le_iff (hix : ix.starts.Pairwise (· < ·)) (h : ix.starts[i]? = some start) :
    start ≤ offset ↔ i < ix.lineAt offset := by
  obtain ⟨before, rest, hstarts, hline, hbefore, hrest⟩ := ix.starts_split offset
  rw [hstarts] at h hix
  rw [hline]
  constructor
  · intro hle
    by_contra hlt
    rw [List.getElem?_append_right (by omega)] at h
    -- What comes behind the first start beyond the offset is further on.
    cases rest with
    | nil => simp at h
    | cons next rest =>
      have hnext : offset < next := hrest next rfl
      rcases List.mem_cons.1 (List.mem_of_getElem? h) with rfl | hmem
      · omega
      · have := (List.pairwise_cons.1 (List.pairwise_append.1 hix).2.1).1 start hmem
        omega
  · intro hlt
    rw [List.getElem?_append_left hlt] at h
    exact hbefore start (List.mem_of_getElem? h)

/-! ### Bounds -/

/-- What an index counts on. A search among the starts finds the line of an offset; the line is
one of those with a start, and its start is not beyond the offset. A line that another one
precedes does not start at zero, and the place of a column can be counted in 64 bits. -/
structure InBounds (ix : LineIndex) : Prop where
  searched : ∀ offset i start, ix.starts[i]? = some start →
    (start ≤ offset ↔ i < ix.lineAt offset)
  line_pos : ∀ offset, 1 ≤ ix.lineAt offset
  line_lt : ∀ offset, ix.lineAt offset - 1 < ix.starts.length
  start_le : ∀ offset start, ix.starts[ix.lineAt offset - 1]? = some start → start ≤ offset
  next_pos : ∀ (p : Position) start next, ix.lineStart? p.line.toNat = some start →
    ix.starts[p.line.toNat]? = some next → 1 ≤ next
  offset_lt : ∀ (p : Position) start, ix.lineStart? p.line.toNat = some start →
    start + (p.column.toNat - 1) < UInt64.size

lemma inBounds_ofText (hs : s.length < 2 ^ 32 - 1) : (ofText s).InBounds := by
  have hsearched : ∀ offset i start, (ofText s).starts[i]? = some start →
      (start ≤ offset ↔ i < (ofText s).lineAt offset) := fun _ _ _ =>
    start_le_iff (pairwise_starts s)
  have hpos : ∀ offset, 1 ≤ (ofText s).lineAt offset := fun offset => lineAt_pos rfl offset
  constructor
  case searched => exact hsearched
  case line_pos => exact hpos
  case line_lt =>
    intro offset
    have hle := (ofText s).lineAt_le_lineCount offset
    have := hpos offset
    rw [lineCount] at hle
    omega
  case start_le =>
    intro offset start h
    have := hpos offset
    exact (hsearched offset _ start h).2 (by omega)
  case next_pos =>
    intro p start next hline hnext
    have hne : p.line.toNat ≠ 0 := by
      intro h0
      simp [lineStart?, h0] at hline
    obtain ⟨line, hline⟩ := Nat.exists_eq_succ_of_ne_zero hne
    rw [hline] at hnext
    exact (mem_startsAfter (List.mem_of_getElem? hnext)).1
  case offset_lt =>
    intro p start hline
    have hmem : start ∈ (ofText s).starts := by
      rw [lineStart?] at hline
      split at hline
      · cases hline
      · exact List.mem_of_getElem? hline
    have hle := le_length_of_mem_starts hmem
    have hcolumn := p.column.toNat_lt
    simp only [UInt64.size]
    omega

/-! ### Order -/

/-- **Positions are in the order of their offsets.** -/
lemma le_iff_position?_le (hs : s.length < 2 ^ 32 - 1)
    (hp : (ofText s).position? offset = some p) (hq : (ofText s).position? offset' = some q) :
    offset ≤ offset' ↔ p.le q := by
  refine ⟨fun hle => position?_le hs hle hp hq, fun hpq => ?_⟩
  rcases Nat.le_total offset offset' with hle | hle
  · exact hle
  · -- The positions are then the same, and so are the offsets.
    obtain rfl : p = q := Position.le_antisymm hpq (position?_le hs hle hq hp)
    have hback := offset?_eq_some_iff.2 (placeAt_of_position? hs hp)
    rw [offset?_eq_some_iff.2 (placeAt_of_position? hs hq)] at hback
    exact (Option.some.inj hback).ge

/-- Offsets up to the end of a text and their positions correspond: a position counts the lines
and characters before its offset, each leads back to the other, and they are in one order. -/
structure Corresponds (s : Text) : Prop where
  isSome_iff : ∀ offset, ((ofText s).position? offset).isSome ↔ offset ≤ s.length
  line_eq : ∀ offset p, (ofText s).position? offset = some p →
    p.line.toNat = (s.take offset).count '\n' + 1
  column_eq : ∀ offset p, (ofText s).position? offset = some p →
    p.column.toNat = (Comment.lastLine (s.take offset)).length + 1
  offset_of_position : ∀ offset p, (ofText s).position? offset = some p →
    (ofText s).offset? p = some offset
  position_of_offset : ∀ offset p, (ofText s).offset? p = some offset →
    (ofText s).position? offset = some p
  lt_iff : ∀ offset offset' p q, (ofText s).position? offset = some p →
    (ofText s).position? offset' = some q → (offset < offset' ↔ p.compare q = .lt)

/-- **Offsets and positions correspond**, and nothing that is looked up or taken away for one of
them is missing. -/
theorem corresponds_ofText (hs : s.length < 2 ^ 32 - 1) :
    Corresponds s ∧ (ofText s).InBounds := by
  refine ⟨?_, inBounds_ofText hs⟩
  constructor
  case isSome_iff => exact fun offset => position?_isSome_iff
  case line_eq => exact fun offset p hp => (placeAt_of_position? hs hp).line_eq
  case column_eq => exact fun offset p hp => (placeAt_of_position? hs hp).column_eq
  case offset_of_position =>
    exact fun offset p hp => offset?_eq_some_iff.2 (placeAt_of_position? hs hp)
  case position_of_offset =>
    intro offset p hoffset
    have hplace := position?_of_placeAt (offset?_eq_some_iff.1 hoffset)
    rwa [Position.ofCounts, UInt32.ofNat_toNat, UInt32.ofNat_toNat] at hplace
  case lt_iff =>
    intro offset offset' p q hp hq
    rw [Position.compare_eq_lt_iff, ← le_iff_position?_le hs hq hp, not_le]

/-- A line, an empty one, and one without end. -/
def gappedText : Text := "ab\n\nc".toList

theorem corresponds_gappedText :
    gappedText.length < 2 ^ 32 - 1 ∧
      (ofText gappedText).position? 2 = some ⟨1, 3⟩ ∧
      (ofText gappedText).position? 3 = some ⟨2, 1⟩ ∧
      (ofText gappedText).offset? ⟨2, 1⟩ = some 3 ∧
      (Position.mk 1 3).compare ⟨2, 1⟩ = .lt ∧
      ((ofText gappedText).position? 5).isSome ∧ ¬ ((ofText gappedText).position? 6).isSome ∧
      (ofText gappedText).lineStart? 3 = some 4 ∧
      4 + (UInt32.toNat 4294967295 - 1) < UInt64.size := by
  have hs : gappedText.length < 2 ^ 32 - 1 := by decide
  obtain ⟨hcorresponds, hbounds⟩ := corresponds_ofText hs
  have hbreak : (ofText gappedText).position? 2 = some ⟨1, 3⟩ := by decide
  have hempty : (ofText gappedText).position? 3 = some ⟨2, 1⟩ := by decide
  have hlast : (ofText gappedText).lineStart? 3 = some 4 := by decide
  refine ⟨hs, hbreak, hempty, hcorresponds.offset_of_position 3 _ hempty,
    (hcorresponds.lt_iff 2 3 _ _ hbreak hempty).1 (by decide),
    (hcorresponds.isSome_iff 5).2 (by decide), fun h => ?_, hlast,
    hbounds.offset_lt ⟨3, 4294967295⟩ 4 hlast⟩
  exact absurd ((hcorresponds.isSome_iff 6).1 h) (by decide)

end LatexReview.LineIndex
