import Mathlib
import LatexReview.Text.Matches

/-!
Where matches stand.

A match is what its pattern sees at one place of a text, and its own text stands at that place.
A pattern that only reads on sees the same wherever it stands, so the matches behind a stretch
without any are those of the rest, further on.
-/

namespace LatexReview.Text

variable {s t u rest after name : Text} {offset n : ℕ}

/-! ### Texts in a text -/

/-- A text stands in another one, that many characters from its start. -/
def HoldsAt (s : Text) (offset : ℕ) (t : Text) : Prop :=
  ∃ before after, s = before ++ (t ++ after) ∧ offset = before.length

lemma HoldsAt.trans (h : s.HoldsAt offset t) (hu : t.HoldsAt n u) : s.HoldsAt (offset + n) u := by
  obtain ⟨before, after, rfl, rfl⟩ := h
  obtain ⟨inner, outer, rfl, rfl⟩ := hu
  exact ⟨before ++ inner, outer ++ after, by simp, by simp⟩

lemma HoldsAt.isPrefix_drop (h : s.HoldsAt offset t) : t <+: s.drop offset := by
  obtain ⟨before, after, rfl, rfl⟩ := h
  simp

lemma HoldsAt.add_length_le (h : s.HoldsAt offset t) : offset + t.length ≤ s.length := by
  obtain ⟨before, after, rfl, rfl⟩ := h
  simp

/-! ### Reading on -/

lemma stripStart?_eq_some_iff : s.stripStart? t = some rest ↔ s = t ++ rest := by
  rw [stripStart?]
  constructor
  · intro h
    split at h
    · rename_i hprefix
      obtain ⟨tail, rfl⟩ := List.isPrefixOf_iff_prefix.1 hprefix
      simpa using h
    · simp at h
  · rintro rfl
    have hprefix : t.isPrefixOf (t ++ rest) :=
      List.isPrefixOf_iff_prefix.2 (List.prefix_append t rest)
    rw [if_pos hprefix, List.drop_left]

lemma cutChar?_eq_some {c : Char} (h : cutChar? c s = some (t, rest)) :
    s = t ++ c :: rest ∧ c ∉ t := by
  rw [cutChar?] at h
  split at h
  · simp at h
  · rename_i d tail hdrop
    obtain ⟨rfl, rfl⟩ : s.takeWhile (· ≠ c) = t ∧ tail = rest := by simpa using h
    have hd : d = c := by
      have hstop := List.head?_dropWhile_not (fun d => decide (d ≠ c)) s
      rw [hdrop] at hstop
      simpa using hstop
    subst hd
    refine ⟨?_, fun hmem => by simpa using List.mem_takeWhile_imp hmem⟩
    rw [← hdrop, List.takeWhile_append_dropWhile]

lemma group?_eq_some (h : group? s = some (name, rest)) :
    s = '{' :: (name ++ '}' :: rest) ∧ '}' ∉ name := by
  obtain ⟨inner, hopen, hclose⟩ := Option.bind_eq_some_iff.1 h
  obtain ⟨rfl, hname⟩ := cutChar?_eq_some hclose
  exact ⟨stripStart?_eq_some_iff.1 hopen, hname⟩

lemma dropOne_cases (c : Char) (s : Text) :
    s = c :: dropOne c s ∨ s = dropOne c s := by
  cases s with
  | nil => exact Or.inr rfl
  | cons d rest =>
    by_cases hd : d = c
    · exact Or.inl (by simp [dropOne, hd])
    · exact Or.inr (by simp [dropOne, hd])

/-! ### Matches -/

/-- The same match, some characters further on. -/
def Match.later {α : Type} (n : ℕ) (m : Match α) : Match α := { m with offset := n + m.offset }

namespace Pattern

variable {α : Type} {p : Pattern α} {m : Match α} {skip : ℕ} {before : Option Char}
  {read : Text → Option (α × Text)}

lemma exists_of_mem_matchesFrom (h : m ∈ p.matchesFrom offset skip before s) :
    ∃ start rest count, s = start ++ rest ∧ m.offset = offset + start.length ∧
      p (start.getLast?.or before) rest = some (count, m.value) ∧ m.text = rest.take count := by
  induction s generalizing offset skip before with
  | nil => simp [matchesFrom] at h
  | cons c s ih =>
    -- A match further on is found from the next character.
    have hnext : ∀ skip, m ∈ p.matchesFrom (offset + 1) skip (some c) s →
        ∃ start rest count, c :: s = start ++ rest ∧ m.offset = offset + start.length ∧
          p (start.getLast?.or before) rest = some (count, m.value) ∧
            m.text = rest.take count := by
      intro skip hm
      obtain ⟨start, rest, count, rfl, hoffset, hp, htext⟩ := ih hm
      refine ⟨c :: start, rest, count, rfl, ?_, ?_, htext⟩
      · rw [hoffset, List.length_cons]
        omega
      · rw [List.getLast?_cons]
        cases hlast : start.getLast? <;> simpa [hlast] using hp
    cases skip with
    | succ skip => exact hnext skip h
    | zero =>
      rw [matchesFrom] at h
      split at h
      · rename_i count value hp
        rcases List.mem_cons.1 h with rfl | h
        · exact ⟨[], c :: s, count, rfl, rfl, by simpa using hp, rfl⟩
        · exact hnext _ h
      · exact hnext 0 h

lemma exists_of_mem_matchesIn (h : m ∈ p.matchesIn s) :
    ∃ start rest count, s = start ++ rest ∧ m.offset = start.length ∧
      p start.getLast? rest = some (count, m.value) ∧ m.text = rest.take count := by
  obtain ⟨start, rest, count, hs, hoffset, hp, htext⟩ := exists_of_mem_matchesFrom h
  exact ⟨start, rest, count, hs, by simpa using hoffset, by simpa using hp, htext⟩

lemma holdsAt_of_mem_matchesIn (h : m ∈ p.matchesIn s) : s.HoldsAt m.offset m.text := by
  obtain ⟨start, rest, count, rfl, hoffset, -, htext⟩ := exists_of_mem_matchesIn h
  exact ⟨start, rest.drop count, by rw [htext, List.take_append_drop], hoffset⟩

lemma exists_of_mem_ofReader (h : m ∈ (ofReader read).matchesIn s) :
    ∃ start rest after, s = start ++ rest ∧ m.offset = start.length ∧
      read rest = some (m.value, after) := by
  obtain ⟨start, rest, count, hs, hoffset, hp, -⟩ := exists_of_mem_matchesIn h
  obtain ⟨⟨value, after⟩, hread, hpair⟩ := Option.map_eq_some_iff.1 hp
  obtain ⟨-, rfl⟩ := Prod.mk.inj hpair
  exact ⟨start, rest, after, hs, hoffset, hread⟩

/-! ### Matches further on -/

lemma matchesFrom_ofReader (n : ℕ) (before other : Option Char) :
    (ofReader read).matchesFrom (n + offset) skip before s =
      ((ofReader read).matchesFrom offset skip other s).map (Match.later n) := by
  induction s generalizing offset skip before other with
  | nil => rfl
  | cons c s ih =>
    have hnext : ∀ skip, (ofReader read).matchesFrom (n + offset + 1) skip (some c) s =
        ((ofReader read).matchesFrom (offset + 1) skip (some c) s).map (Match.later n) := by
      intro skip
      rw [Nat.add_assoc]
      exact ih _ _
    cases skip with
    | succ skip => exact hnext skip
    | zero =>
      simp only [matchesFrom, ofReader]
      cases hread : read (c :: s) with
      | none => exact hnext 0
      | some pair => exact congrArg (_ :: ·) (hnext _)

lemma matchesIn_cons {c : Char} (h : read (c :: s) = none) :
    (ofReader read).matchesIn (c :: s) = ((ofReader read).matchesIn s).map (Match.later 1) := by
  have hnone : ofReader read none (c :: s) = none := by simp [ofReader, h]
  calc
    (ofReader read).matchesIn (c :: s) = (ofReader read).matchesFrom (1 + 0) 0 (some c) s := by
      rw [matchesIn, matchesFrom, hnone]
    _ = ((ofReader read).matchesIn s).map (Match.later 1) := matchesFrom_ofReader 1 _ _

end Pattern

end LatexReview.Text
