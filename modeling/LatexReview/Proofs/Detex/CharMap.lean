import Mathlib
import LatexReview.Proofs.Detex.Origin

/-!
The char map of a detexed source.

It is well formed for every source, and every plain character is justified by what stands in
the source at the offset that the map gives for it.
-/

namespace LatexReview.Detex

/-- Why a plain character comes from an offset of the source, as the one that has `index`
others from there before it. -/
inductive Justified (source : Text) (offset index : Nat) (p : Char) : Prop where
  | itself (h : source[offset]? = some p) (hp : p ∉ markup)
  | tie (h : source[offset]? = some '~') (hp : p = ' ')
  | blank (h : source[offset]? = some '\\')
    (hn : source[offset + 1]? = some '\\' ∨ source[offset + 1]? = some ' ') (hp : p = ' ')
  | literal (h : source[offset]? = some '\\') (hn : source[offset + 1]? = some p)
    (hp : p ∈ escapable)
  | expansion {text : Text} (h : Expands source offset text) (hp : text[index]? = some p)

/-- The char map of a detexed source is well formed, and all of the plain text is justified. -/
structure Mapped (source : Text) (d : Detexed) : Prop where
  length_eq : d.charMap.length = d.plain.length + 1
  last : d.charMap[d.plain.length]? = some (some source.length)
  present : none ∉ d.charMap
  inside : ∀ i < d.plain.length, ∀ o, d.charMap[i]? = some (some o) → o < source.length
  ordered : ∀ i j o o' : Nat, i ≤ j → d.charMap[i]? = some (some o) →
    d.charMap[j]? = some (some o') → o ≤ o'
  /-- Neighbours share an offset only if both lie in what one command stands for, which takes
  up just the entries with that offset. -/
  shared : ∀ i o, d.charMap[i]? = some (some o) → d.charMap[i + 1]? = some (some o) →
    ∃ text start, Expands source o text ∧ start ≤ i ∧ i + 1 < start + text.length ∧
      ∀ j, d.charMap[j]? = some (some o) ↔ start ≤ j ∧ j < start + text.length
  justified : ∀ i p o, d.plain[i]? = some p → d.charMap[i]? = some (some o) →
    Justified source o ((d.charMap.take i).count (some o)) p

variable {source : Text}

lemma Stands.justified {o k : Nat} {t : Text} {p : Char} (h : Stands source o t)
    (hp : t[k]? = some p) : Justified source o k p := by
  -- A text of one character has that one only.
  have hone : ∀ c : Char, [c][k]? = some p → p = c := by
    intro c hc
    rw [List.getElem?_singleton] at hc
    split at hc
    · exact (Option.some.inj hc).symm
    · simp at hc
  cases h with
  | expansion h => exact .expansion h hp
  | itself h hc =>
    obtain rfl := hone _ hp
    exact .itself h hc
  | tie h => exact .tie h (hone _ hp)
  | blank h hn => exact .blank h hn (hone _ hp)
  | literal h hn hc =>
    obtain rfl := hone _ hp
    exact .literal h hn hc

lemma Stands.expands {o : Nat} {t : Text} (h : Stands source o t) (hl : 1 < t.length) :
    Expands source o t := by
  cases h with
  | expansion h => exact h
  | _ => simp at hl

lemma exists_piece {ps : List (Nat × Text)} {i o : Nat} {p : Char}
    (h : (flat ps)[i]? = some (p, o)) :
    ∃ before t after k, ps = before ++ (o, t) :: after ∧ i = (flat before).length + k ∧
      t[k]? = some p := by
  induction ps generalizing i with
  | nil => simp at h
  | cons q ps ih =>
    obtain ⟨o', t⟩ := q
    rw [flat_cons, List.getElem?_append] at h
    split at h
    · obtain ⟨c, hc, he⟩ : ∃ c, t[i]? = some c ∧ (c, o') = (p, o) := by simpa using h
      obtain ⟨rfl, rfl⟩ := Prod.mk.inj he
      exact ⟨[], t, ps, i, rfl, by simp, hc⟩
    · rename_i hlt
      obtain ⟨before, t', after, k, rfl, hk, hp⟩ := ih h
      refine ⟨(o', t) :: before, t', after, k, rfl, ?_, hp⟩
      simp at hlt hk ⊢
      omega

section

variable {before after : List (Nat × Text)} {o : Nat} {t : Text}

lemma getElem?_flat_iff (hord : (before ++ (o, t) :: after).Pairwise (·.1 < ·.1)) {j : Nat}
    {q : Char} :
    (flat (before ++ (o, t) :: after))[j]? = some (q, o) ↔
      (flat before).length ≤ j ∧ t[j - (flat before).length]? = some q := by
  obtain ⟨-, hafter, hbefore⟩ := List.pairwise_append.1 hord
  have hlt : ∀ e ∈ flat before, e.2 ≠ o := by
    intro e he
    obtain ⟨p, hp, hpe⟩ := mem_flat he
    have := hbefore p hp (o, t) (by simp)
    simp only at this
    omega
  have hgt : ∀ e ∈ flat after, e.2 ≠ o := by
    intro e he
    obtain ⟨p, hp, hpe⟩ := mem_flat he
    have := (List.pairwise_cons.1 hafter).1 p hp
    simp only at this
    omega
  rw [flat_append, flat_cons]
  constructor
  · intro h
    rw [List.getElem?_append] at h
    split at h
    · exact absurd rfl (hlt _ (List.mem_of_getElem? h))
    rename_i hj
    refine ⟨by omega, ?_⟩
    rw [List.getElem?_append] at h
    split at h
    · simpa using h
    · exact absurd rfl (hgt _ (List.mem_of_getElem? h))
  · rintro ⟨hj, h⟩
    obtain ⟨hk, -⟩ := List.getElem?_eq_some_iff.1 h
    rw [List.getElem?_append_right hj, List.getElem?_append_left (by simpa using hk)]
    simp [h]

end

/-- The source offsets that a char map of pieces holds, the end of the source last. -/
def offsets (source : Text) (pieces : List (Nat × Text)) : List Nat :=
  (flat pieces).map (·.2) ++ [source.length]

section

variable {pieces : List (Nat × Text)} (hord : pieces.Pairwise (·.1 < ·.1))
  (hps : ∀ p ∈ pieces, p.1 < source.length ∧ Stands source p.1 p.2)

include hps in
lemma flat_lt_length {e : Char × Nat} (he : e ∈ flat pieces) : e.2 < source.length := by
  obtain ⟨p, hp, hpe⟩ := mem_flat he
  exact hpe ▸ (hps p hp).1

lemma getElem?_offsets_iff {i o : Nat} (ho : o < source.length) :
    (offsets source pieces)[i]? = some o ↔ ∃ q, (flat pieces)[i]? = some (q, o) := by
  unfold offsets
  rw [List.getElem?_append]
  split
  · simp
  · rename_i hi
    have hnone : (flat pieces)[i]? = none := List.getElem?_eq_none (by simpa using hi)
    rw [List.getElem?_singleton, hnone]
    split
    · simpa using ho.ne'
    · simp

include hps in
lemma offset_lt {i o : Nat} (hi : i < (flat pieces).length)
    (h : (offsets source pieces)[i]? = some o) : o < source.length := by
  rw [offsets, List.getElem?_append_left (by simpa using hi)] at h
  obtain ⟨e, he, rfl⟩ := List.mem_map.1 (List.mem_of_getElem? h)
  exact flat_lt_length hps he

include hord hps in
lemma pairwise_offsets : (offsets source pieces).Pairwise (· ≤ ·) := by
  refine List.pairwise_append.2 ⟨?_, by simp, ?_⟩
  · rw [List.pairwise_map, flat, List.pairwise_flatMap]
    refine ⟨fun p _ => ?_, hord.imp fun {p q} hpq x hx y hy => ?_⟩
    · rw [List.pairwise_map]
      exact List.pairwise_of_forall fun _ _ => le_rfl
    · obtain ⟨c, -, rfl⟩ := List.mem_map.1 hx
      obtain ⟨d, -, rfl⟩ := List.mem_map.1 hy
      exact hpq.le
  · intro o ho n hn
    obtain ⟨e, he, rfl⟩ := List.mem_map.1 ho
    obtain rfl : n = source.length := by simpa using hn
    exact (flat_lt_length hps he).le

include hord hps in
lemma offset_iff {before after : List (Nat × Text)} {o j : Nat} {t : Text}
    (h : pieces = before ++ (o, t) :: after) :
    (offsets source pieces)[j]? = some o ↔
      (flat before).length ≤ j ∧ j < (flat before).length + t.length := by
  subst h
  rw [getElem?_offsets_iff (hps (o, t) (by simp)).1]
  simp only [getElem?_flat_iff hord]
  constructor
  · rintro ⟨q, hj, hq⟩
    obtain ⟨hk, -⟩ := List.getElem?_eq_some_iff.1 hq
    omega
  · rintro ⟨hj, hk⟩
    exact ⟨t[j - (flat before).length], hj, List.getElem?_eq_getElem _⟩

include hord in
lemma count_offsets {before after : List (Nat × Text)} {o k : Nat} {t : Text}
    (h : pieces = before ++ (o, t) :: after) (hk : k ≤ t.length) :
    ((offsets source pieces).take ((flat before).length + k)).count o = k := by
  subst h
  have htake : (offsets source (before ++ (o, t) :: after)).take ((flat before).length + k) =
      (flat before).map (·.2) ++ List.replicate k o := by
    unfold offsets
    rw [List.take_append_of_le_length (by simp; omega), flat_append, flat_cons, List.map_append,
      List.take_append, List.take_of_length_le (by simp)]
    simp [List.take_append_of_le_length, hk, Function.comp_def]
  have hzero : ((flat before).map (·.2)).count o = 0 := by
    rw [List.count_eq_zero]
    intro ho
    obtain ⟨e, he, rfl⟩ := List.mem_map.1 ho
    obtain ⟨p, hp, hpe⟩ := mem_flat he
    have := (List.pairwise_append.1 hord).2.2 p hp (e.2, t) (by simp)
    simp only at this
    omega
  rw [htake, List.count_append, hzero, List.count_replicate_self, Nat.zero_add]

include hord hps in
lemma mapped_of_pieces (errors : List ParseError) :
    Mapped source ⟨(flat pieces).map (·.1), (offsets source pieces).map some, errors⟩ := by
  have hlen : (offsets source pieces).length = (flat pieces).length + 1 := by simp [offsets]
  have hentry : ∀ i o : Nat, ((offsets source pieces).map some)[i]? = some (some o) ↔
      (offsets source pieces)[i]? = some o := by simp
  constructor
  case length_eq => simp [hlen]
  case last => simp [offsets]
  case present => simp
  case inside =>
    intro i hi o ho
    exact offset_lt hps (by simpa using hi) ((hentry i o).1 ho)
  case ordered =>
    intro i j o o' hij ho ho'
    rw [hentry] at ho ho'
    obtain ⟨hi, rfl⟩ := List.getElem?_eq_some_iff.1 ho
    obtain ⟨hj, rfl⟩ := List.getElem?_eq_some_iff.1 ho'
    rcases hij.eq_or_lt with rfl | hij
    · exact le_rfl
    · exact List.pairwise_iff_getElem.1 (pairwise_offsets hord hps) i j hi hj hij
  case shared =>
    intro i o ho ho'
    simp only [hentry] at ho ho' ⊢
    obtain ⟨hi, -⟩ := List.getElem?_eq_some_iff.1 ho'
    have hlt : o < source.length := offset_lt hps (by omega) ho
    obtain ⟨p, hp⟩ := (getElem?_offsets_iff hlt).1 ho
    obtain ⟨before, t, after, k, rfl, rfl, -⟩ := exists_piece hp
    have hiff := fun j => offset_iff (j := j) hord hps rfl
    have hin := (hiff _).1 ho'
    have hl : 1 < t.length := by omega
    exact ⟨t, (flat before).length, (hps (o, t) (by simp)).2.expands hl, by omega, hin.2, hiff⟩
  case justified =>
    intro i p o hp ho
    rw [hentry] at ho
    obtain ⟨⟨q, o'⟩, hq, rfl⟩ : ∃ e, (flat pieces)[i]? = some e ∧ e.1 = p := by simpa using hp
    obtain rfl : o' = o := by
      obtain ⟨hi, -⟩ := List.getElem?_eq_some_iff.1 hq
      rw [offsets, List.getElem?_append_left (by simpa using hi)] at ho
      simpa [hq] using ho
    obtain ⟨before, t, after, k, hpieces, rfl, hk⟩ := exists_piece hq
    have hkt : k ≤ t.length := (List.getElem?_eq_some_iff.1 hk).1.le
    rw [← List.map_take, List.count_map_of_injective _ _ (Option.some_injective _),
      count_offsets hord hpieces hkt]
    exact (hps (o', t) (by simp [hpieces])).2.justified hk

end

lemma exists_offset (source : Text) {i : ℕ} (h : i < (detex source).plain.length) :
    ∃ o < source.length, (detex source).charMap[i]? = some (some o) := by
  obtain ⟨pieces, hout, -, hps⟩ := State.traces_outcome source
  have hlt : i < (flat pieces).length := by simpa [State.detex_eq_outcome, hout] using h
  refine ⟨(flat pieces)[i].2, flat_lt_length hps (List.getElem_mem hlt), ?_⟩
  rw [State.detex_eq_outcome, hout, List.getElem?_append_left (by simpa using hlt)]
  simp [hlt]

lemma exists_entries (source : Text) :
    ∃ entries : List ℕ, (detex source).charMap = entries.map some ∧
      entries.length = (detex source).plain.length + 1 ∧ entries.Pairwise (· ≤ ·) ∧
      ∀ o ∈ entries, o ≤ source.length := by
  obtain ⟨pieces, hout, hord, hps⟩ := State.traces_outcome source
  refine ⟨offsets source pieces, ?_, ?_, pairwise_offsets hord hps, ?_⟩
  · simp [State.detex_eq_outcome, hout, offsets]
  · simp [State.detex_eq_outcome, hout, offsets]
  · intro o ho
    rcases List.mem_append.1 ho with ho | ho
    · obtain ⟨e, he, rfl⟩ := List.mem_map.1 ho
      exact (flat_lt_length hps he).le
    · exact (List.mem_singleton.1 ho).le

/-- **The char map is well formed**, for every source, and all of the plain text is justified
by it. -/
theorem mapped_detex (source : Text) : Mapped source (detex source) := by
  obtain ⟨pieces, hout, hord, hps⟩ := State.traces_outcome source
  have h := mapped_of_pieces hord hps (detex source).errors
  have hmap : (detex source).charMap = (offsets source pieces).map some := by
    simp [State.detex_eq_outcome, hout, offsets]
  have hplain : (detex source).plain = (flat pieces).map (·.1) := by
    rw [State.detex_eq_outcome, hout]
  rwa [← hmap, ← hplain] at h

end LatexReview.Detex
