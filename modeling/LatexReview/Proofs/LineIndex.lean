import Mathlib
import LatexReview.LineIndex
import LatexReview.Proofs.Position
import LatexReview.Proofs.Text.Place

/-!
The positions of a text, there and back.

The starts of the lines up to an offset are a prefix of all starts. The last start in it is
that of the line the offset lies in; the first one after it is beyond the offset. So the
position of an offset leads back to the offset, as long as lines and columns can be counted
in 32 bits.

Behind a text whose lines are all ended, a text has its lines where it has them by itself,
only further down.
-/

namespace LatexReview.LineIndex

variable {ix : LineIndex} {s : Text} {offset : ℕ}

lemma length_startsAfter (s : Text) (offset : ℕ) :
    (startsAfter offset s).length = s.count '\n' := by
  induction s generalizing offset with
  | nil => simp [startsAfter]
  | cons c rest ih =>
    unfold startsAfter
    by_cases hc : c = '\n'
    · simp [hc, ih]
    · simp [hc, ih]

lemma lineCount_ofText_le (s : Text) : (ofText s).lineCount ≤ s.length + 1 := by
  have h : s.count '\n' ≤ s.length := List.count_le_length
  simpa [lineCount, ofText, length_startsAfter] using h

/-! ### The line of an offset -/

lemma starts_split (ix : LineIndex) (offset : ℕ) :
    ∃ before rest, ix.starts = before ++ rest ∧ ix.lineAt offset = before.length ∧
      (∀ start ∈ before, start ≤ offset) ∧ ∀ next ∈ rest.head?, offset < next := by
  refine ⟨ix.starts.takeWhile (· ≤ offset), ix.starts.dropWhile (· ≤ offset),
    List.takeWhile_append_dropWhile.symm, rfl, fun start hstart => ?_, fun next hnext => ?_⟩
  · simpa using List.mem_takeWhile_imp hstart
  · have hbeyond := List.head?_dropWhile_not (fun start => decide (start ≤ offset)) ix.starts
    rw [Option.mem_def.1 hnext] at hbeyond
    simpa using hbeyond

lemma lineAt_le_lineCount (ix : LineIndex) (offset : ℕ) : ix.lineAt offset ≤ ix.lineCount :=
  (List.takeWhile_sublist _).length_le

lemma lineAt_pos (h : ix.starts.head? = some 0) (offset : ℕ) : 0 < ix.lineAt offset := by
  obtain ⟨starts, length⟩ := ix
  cases starts with
  | nil => simp at h
  | cons start rest =>
    obtain rfl : start = 0 := by simpa using h
    simp [lineAt]

lemma lineStart_lineAt (h : ix.starts.head? = some 0) (offset : ℕ) :
    ∃ start ≤ offset, ix.lineStart? (ix.lineAt offset) = some start := by
  have hpos := ix.lineAt_pos h offset
  obtain ⟨before, rest, hstarts, hline, hbefore, -⟩ := ix.starts_split offset
  have hlt : ix.lineAt offset - 1 < before.length := by omega
  refine ⟨before[ix.lineAt offset - 1], hbefore _ (List.getElem_mem hlt), ?_⟩
  rw [lineStart?, if_neg hpos.ne', hstarts, List.getElem?_append_left hlt,
    List.getElem?_eq_getElem hlt]

lemma le_lineEnd_lineAt (h : offset ≤ ix.length) : offset ≤ ix.lineEnd (ix.lineAt offset) := by
  obtain ⟨before, rest, hstarts, hline, -, hrest⟩ := ix.starts_split offset
  have hnext : ix.starts[ix.lineAt offset]? = rest.head? := by
    rw [hline, hstarts, List.getElem?_append_right le_rfl, Nat.sub_self,
      List.head?_eq_getElem?]
  rw [lineEnd, hnext]
  cases rest with
  | nil => exact h
  | cons next rest =>
    have hbeyond : offset < next := hrest next rfl
    exact Nat.le_sub_one_of_lt hbeyond

/-! ### Positions -/

lemma exists_position (hfirst : ix.starts.head? = some 0) (h : offset ≤ ix.length) :
    ∃ p, ix.position? offset = some p := by
  obtain ⟨start, -, hstart⟩ := lineStart_lineAt hfirst offset
  simp [position?, Nat.not_lt.2 h, hstart]

/-- **The position of an offset leads back to it.** -/
lemma offset_position (hfirst : ix.starts.head? = some 0) (hcount : ix.lineCount < 2 ^ 32)
    (hlength : ix.length < 2 ^ 32 - 1) (h : offset ≤ ix.length) :
    ∃ p, ix.position? offset = some p ∧ ix.offset? p = some offset := by
  obtain ⟨start, hle, hstart⟩ := lineStart_lineAt hfirst offset
  have hline : (UInt32.ofNat (ix.lineAt offset)).toNat = ix.lineAt offset := by
    have := ix.lineAt_le_lineCount offset
    exact UInt32.toNat_ofNat_of_lt' (by simp only [UInt32.size]; omega)
  have hcolumn : (UInt32.ofNat (offset - start + 1)).toNat = offset - start + 1 :=
    UInt32.toNat_ofNat_of_lt' (by simp only [UInt32.size]; omega)
  have hne : UInt32.ofNat (offset - start + 1) ≠ 0 := by
    intro h0
    rw [h0] at hcolumn
    simp at hcolumn
  refine ⟨.ofCounts (ix.lineAt offset) (offset - start + 1), ?_, ?_⟩
  · simp [position?, Nat.not_lt.2 h, hstart]
  · have hback : start + (offset - start + 1 - 1) = offset := by omega
    simp only [offset?, Position.ofCounts, hline, hcolumn, hstart, Option.bind_eq_bind,
      Option.bind_some, if_neg hne, hback, if_pos (le_lineEnd_lineAt h)]

/-- The offsets of a text have positions, no two of them the same. -/
theorem offset_position_ofText (hs : s.length < 2 ^ 32 - 1) (h : offset ≤ s.length) :
    ∃ p, (ofText s).position? offset = some p ∧ (ofText s).offset? p = some offset := by
  have hcount := lineCount_ofText_le s
  exact offset_position rfl (by omega) hs h

lemma position_injOn (hs : s.length < 2 ^ 32 - 1) :
    Set.InjOn (ofText s).position? {offset | offset ≤ s.length} := by
  intro o ho o' ho' heq
  obtain ⟨p, hp, hback⟩ := offset_position_ofText hs ho
  obtain ⟨p', hp', hback'⟩ := offset_position_ofText hs ho'
  obtain rfl : p = p' := by
    rw [hp, hp'] at heq
    exact Option.some.inj heq
  rw [hback] at hback'
  exact Option.some.inj hback'

/-! ### Lines further down -/

variable {a b : Text}

lemma startsAfter_append (a b : Text) (offset : ℕ) :
    startsAfter offset (a ++ b) = startsAfter offset a ++ startsAfter (offset + a.length) b := by
  induction a generalizing offset with
  | nil => simp [startsAfter]
  | cons c rest ih =>
    have hoffset : offset + 1 + rest.length = offset + (c :: rest).length := by
      simp only [List.length_cons]
      omega
    rw [List.cons_append, startsAfter, startsAfter, ih, hoffset]
    split <;> rfl

lemma startsAfter_of_not_mem {line : Text} (h : '\n' ∉ line) (offset : ℕ) :
    startsAfter offset line = [] := by
  rw [← List.length_eq_zero_iff, length_startsAfter, List.count_eq_zero.2 h]

lemma startsAfter_line {line : Text} (h : '\n' ∉ line) (rest : Text) (offset : ℕ) :
    startsAfter offset (line ++ rest) = startsAfter (offset + line.length) rest := by
  rw [startsAfter_append, startsAfter_of_not_mem h, List.nil_append]

lemma startsAfter_add (s : Text) (n offset : ℕ) :
    startsAfter (n + offset) s = (startsAfter offset s).map (n + ·) := by
  induction s generalizing offset with
  | nil => rfl
  | cons c rest ih =>
    rw [startsAfter, startsAfter, Nat.add_assoc, ih]
    split <;> rfl

lemma mem_startsAfter {start : ℕ} (h : start ∈ startsAfter offset s) :
    offset < start ∧ start ≤ offset + s.length := by
  induction s generalizing offset with
  | nil => simp [startsAfter] at h
  | cons c rest ih =>
    have hrest : start ∈ startsAfter (offset + 1) rest →
        offset < start ∧ start ≤ offset + (c :: rest).length := by
      intro hm
      have := ih hm
      simp only [List.length_cons]
      omega
    rw [startsAfter] at h
    split at h
    · rcases List.mem_cons.1 h with rfl | h
      · simp
      · exact hrest h
    · exact hrest h

lemma starts_append (h : a.Ended) (b : Text) :
    ∃ above, (ofText (a ++ b)).starts = above ++ (ofText b).starts.map (a.length + ·) ∧
      above.length = a.count '\n' ∧ ∀ start ∈ above, start ≤ a.length := by
  rcases h.eq_nil_or_concat with rfl | ⟨body, rfl⟩
  · exact ⟨[], by simp [ofText], rfl, by simp⟩
  · refine ⟨0 :: startsAfter 0 body, ?_, by simp [length_startsAfter], ?_⟩
    · have hb : startsAfter (body.length + 1) b =
          (startsAfter 0 b).map (body.length + 1 + ·) := startsAfter_add b (body.length + 1) 0
      simp [ofText, startsAfter_append, startsAfter, hb]
    · refine List.forall_mem_cons.2 ⟨Nat.zero_le _, fun start hstart => ?_⟩
      have := mem_startsAfter hstart
      simp only [List.length_append, List.length_singleton]
      omega

lemma lineAt_append (h : a.Ended) (b : Text) (offset : ℕ) :
    (ofText (a ++ b)).lineAt (a.length + offset) = a.count '\n' + (ofText b).lineAt offset := by
  obtain ⟨above, hstarts, hcount, habove⟩ := starts_append h b
  have hall : ∀ start ∈ above, decide (start ≤ a.length + offset) = true := by
    intro start hstart
    have := habove start hstart
    simp only [decide_eq_true_eq]
    omega
  rw [lineAt, hstarts, List.takeWhile_append_of_pos hall, List.length_append, hcount,
    List.takeWhile_map, List.length_map]
  simp [lineAt, Function.comp_def]

lemma getElem?_starts_append (h : a.Ended) (b : Text) (i : ℕ) :
    (ofText (a ++ b)).starts[a.count '\n' + i]? = (ofText b).starts[i]?.map (a.length + ·) := by
  obtain ⟨above, hstarts, hcount, -⟩ := starts_append h b
  rw [hstarts, List.getElem?_append_right (by omega), List.getElem?_map]
  congr 2
  omega

lemma lineStart?_append (h : a.Ended) (b : Text) {line : ℕ} (hline : 0 < line) :
    (ofText (a ++ b)).lineStart? (a.count '\n' + line) =
      ((ofText b).lineStart? line).map (a.length + ·) := by
  have hindex : a.count '\n' + line - 1 = a.count '\n' + (line - 1) := by omega
  rw [lineStart?, if_neg (by omega), hindex, getElem?_starts_append h, lineStart?,
    if_neg hline.ne']

lemma lineEnd_append (h : a.Ended) (b : Text) {line : ℕ} (hline : 0 < line) :
    (ofText (a ++ b)).lineEnd (a.count '\n' + line) = a.length + (ofText b).lineEnd line := by
  rw [lineEnd, getElem?_starts_append h, lineEnd]
  cases hnext : (ofText b).starts[line]? with
  | none => simp [ofText]
  | some next =>
    -- Only the first line starts at the very top.
    have hpos : 0 < next := by
      obtain ⟨i, rfl⟩ : ∃ i, line = i + 1 := ⟨line - 1, by omega⟩
      exact (mem_startsAfter (List.mem_of_getElem? hnext)).1
    simp only [Option.map_some]
    omega

end LatexReview.LineIndex

namespace LatexReview

/-- The place some lines further down, lines counted in 32 bits. -/
def Position.down (lines : ℕ) (p : Position) : Position := ⟨p.line + .ofNat lines, p.column⟩

namespace LineIndex

lemma position?_append {a : Text} (h : a.Ended) (b : Text) (offset : ℕ) :
    (ofText (a ++ b)).position? (a.length + offset) =
      ((ofText b).position? offset).map (Position.down (a.count '\n')) := by
  have hlength : (ofText (a ++ b)).length = a.length + (ofText b).length := List.length_append
  by_cases hlt : offset > (ofText b).length
  · have hbeyond : a.length + offset > (ofText (a ++ b)).length := by omega
    rw [position?, if_pos hbeyond, position?, if_pos hlt]
    rfl
  · have hinside : ¬ a.length + offset > (ofText (a ++ b)).length := by omega
    rw [position?, if_neg hinside, position?, if_neg hlt, lineAt_append h]
    dsimp only
    rw [lineStart?_append h b (lineAt_pos rfl offset), Option.map_map, Option.map_map]
    congr 1
    funext start
    have hcolumn : a.length + offset - (a.length + start) + 1 = offset - start + 1 := by omega
    simp only [Function.comp, Position.ofCounts, Position.down, hcolumn, UInt32.ofNat_add]
    rw [UInt32.add_comm]

/-! ### Places -/

section

variable {s : Text} {line column offset : ℕ} {p : Position}

lemma lineStart?_of_placeAt (h : s.PlaceAt line column offset) :
    ∃ start, (ofText s).lineStart? line = some start ∧ start + (column - 1) = offset ∧
      offset ≤ (ofText s).lineEnd line := by
  obtain ⟨above, row, rest, rfl, hended, hrow, rfl, rfl, rfl⟩ := h.exists_row
  refine ⟨above.length, ?_, by omega, ?_⟩
  · rw [lineStart?_append hended _ Nat.one_pos]
    rfl
  · rw [lineEnd_append hended _ Nat.one_pos]
    refine Nat.add_le_add_left ?_ _
    -- The next line starts behind the place, if there is one.
    have hstarts : startsAfter 0 (row ++ rest) = startsAfter row.length rest := by
      rw [startsAfter_line hrow, Nat.zero_add]
    rw [lineEnd]
    cases hnext : (ofText (row ++ rest)).starts[1]? with
    | none => simp [ofText]
    | some next =>
      have hmem : next ∈ startsAfter row.length rest := by
        rw [← hstarts]
        exact List.mem_of_getElem? hnext
      have := (mem_startsAfter hmem).1
      dsimp only
      omega

lemma offset?_of_placeAt (h : s.PlaceAt p.line.toNat p.column.toNat offset) :
    (ofText s).offset? p = some offset := by
  obtain ⟨start, hstart, hoffset, hle⟩ := lineStart?_of_placeAt h
  have hne : p.column ≠ 0 := by
    intro h0
    have hcolumn := h.column_eq
    simp [h0] at hcolumn
  simp [offset?, hstart, hne, hoffset, hle]

lemma exists_line_of_lineStart? {start : ℕ} (h : (ofText s).lineStart? line = some start) :
    ∃ above row rest, s = above ++ (row ++ rest) ∧ above.Ended ∧ '\n' ∉ row ∧
      line = above.count '\n' + 1 ∧ start = above.length ∧
      (ofText s).lineEnd line = start + row.length := by
  induction line generalizing s start with
  | zero => simp [lineStart?] at h
  | succ n ih =>
    rcases Text.not_mem_or_exists_line s with hs | ⟨first, rest, rfl, hfirst⟩
    · have hnone := startsAfter_of_not_mem hs 0
      have hstarts : (ofText s).starts = [0] := by rw [ofText, hnone]
      obtain ⟨rfl, rfl⟩ : n = 0 ∧ start = 0 := by
        rw [lineStart?, if_neg (Nat.succ_ne_zero n), hstarts] at h
        obtain ⟨hlt, hget⟩ := List.getElem?_eq_some_iff.1 h
        have hn : n = 0 := by simpa using hlt
        subst hn
        exact ⟨rfl, by simpa using hget.symm⟩
      exact ⟨[], s, [], by simp, Or.inl rfl, hs, rfl, rfl, by simp [lineEnd, ofText, hnone]⟩
    · cases n with
      | zero =>
        obtain rfl : start = 0 := by simpa [lineStart?, ofText, eq_comm] using h
        refine ⟨[], first, '\n' :: rest, rfl, Or.inl rfl, hfirst, rfl, rfl, ?_⟩
        simp [lineEnd, ofText, startsAfter_line hfirst, startsAfter]
      | succ n =>
        have hended : Text.Ended (first ++ ['\n']) := Or.inr (by simp)
        have hcount : (first ++ ['\n']).count '\n' = 1 := by
          simp [List.count_eq_zero.2 hfirst]
        have hsplit : first ++ '\n' :: rest = (first ++ ['\n']) ++ rest := by simp
        have hline : n + 1 + 1 = (first ++ ['\n']).count '\n' + (n + 1) := by omega
        rw [hsplit, hline] at h ⊢
        rw [lineStart?_append hended rest n.succ_pos] at h
        obtain ⟨inner, hinner, rfl⟩ := Option.map_eq_some_iff.1 h
        obtain ⟨above, row, after, rfl, habove, hrow, hn, rfl, hend⟩ := ih hinner
        refine ⟨first ++ ['\n'] ++ above, row, after, by simp, ?_, hrow, ?_,
          List.length_append.symm, ?_⟩
        · simpa using habove.behind first
        · have hboth : (first ++ ['\n'] ++ above).count '\n' = 1 + above.count '\n' := by
            rw [List.count_append, hcount]
          omega
        · rw [lineEnd_append hended _ n.succ_pos, hend, Nat.add_assoc]

lemma offset?_eq_some_iff :
    (ofText s).offset? p = some offset ↔ s.PlaceAt p.line.toNat p.column.toNat offset := by
  refine ⟨fun h => ?_, offset?_of_placeAt⟩
  obtain ⟨start, hstart, h⟩ := Option.bind_eq_some_iff.1 h
  by_cases hcolumn : p.column = 0
  · simp [hcolumn] at h
  obtain ⟨hle, hoffset⟩ : start + (p.column.toNat - 1) ≤ (ofText s).lineEnd p.line.toNat ∧
      start + (p.column.toNat - 1) = offset := by simpa [hcolumn] using h
  have hpos : 0 < p.column.toNat := by
    rw [Nat.pos_iff_ne_zero]
    exact fun h0 => hcolumn (UInt32.toNat_inj.1 (by simpa using h0))
  obtain ⟨above, row, rest, rfl, hended, hrow, hline, rfl, hend⟩ := exists_line_of_lineStart? hstart
  have hin : p.column.toNat - 1 ≤ row.length := by omega
  have hin' : '\n' ∉ row.take (p.column.toNat - 1) := fun hm => hrow (List.mem_of_mem_take hm)
  have hplace := Text.placeAt_row hended hin' (row.drop (p.column.toNat - 1) ++ rest)
  have hlength : (row.take (p.column.toNat - 1)).length = p.column.toNat - 1 := by
    rw [List.length_take, Nat.min_eq_left hin]
  have hcolumn' : p.column.toNat - 1 + 1 = p.column.toNat := by omega
  rwa [← List.append_assoc (row.take _), List.take_append_drop, hlength, hcolumn', ← hline,
    hoffset] at hplace

lemma offset?_eq_none_iff :
    (ofText s).offset? p = none ↔ ¬ ∃ offset, s.PlaceAt p.line.toNat p.column.toNat offset := by
  simp only [← offset?_eq_some_iff, Option.eq_none_iff_forall_not_mem, Option.mem_def, not_exists]

lemma position?_of_placeAt (h : s.PlaceAt line column offset) :
    (ofText s).position? offset = some (.ofCounts line column) := by
  obtain ⟨above, row, rest, rfl, hended, hrow, rfl, rfl, rfl⟩ := h.exists_row
  -- The place is in the first line of the text behind the lines above.
  have hfirst : (ofText (row ++ rest)).lineAt row.length = 1 := by
    have hnext : (startsAfter row.length rest).takeWhile
        (fun start => decide (start ≤ row.length)) = [] := by
      cases hstarts : startsAfter row.length rest with
      | nil => rfl
      | cons next more =>
        have hlt := (mem_startsAfter (hstarts ▸ List.mem_cons_self : next ∈ _)).1
        rw [List.takeWhile_cons_of_neg (by simpa using hlt)]
    have hstarts : (ofText (row ++ rest)).starts = 0 :: startsAfter row.length rest := by
      rw [ofText, startsAfter_line hrow, Nat.zero_add]
    rw [lineAt, hstarts, List.takeWhile_cons_of_pos (by simp), hnext, List.length_singleton]
  have hrow' : (ofText (row ++ rest)).position? row.length =
      some (.ofCounts 1 (row.length + 1)) := by
    have hinside : ¬ row.length > (ofText (row ++ rest)).length := by simp [ofText]
    rw [position?, if_neg hinside, hfirst]
    rfl
  rw [position?_append hended, hrow', Option.map_some, Position.down, Position.ofCounts,
    Position.ofCounts, ← UInt32.ofNat_add, Nat.add_comm 1]

lemma position?_isSome_iff : ((ofText s).position? offset).isSome ↔ offset ≤ s.length := by
  constructor
  · intro h
    by_contra hlt
    have hbeyond : offset > (ofText s).length := Nat.lt_of_not_le hlt
    simp [position?, hbeyond] at h
  · intro h
    obtain ⟨line, column, hplace⟩ := Text.exists_placeAt h
    simp [position?_of_placeAt hplace]

lemma placeAt_of_position? (hs : s.length < 2 ^ 32 - 1)
    (h : (ofText s).position? offset = some p) :
    s.PlaceAt p.line.toNat p.column.toNat offset := by
  have hle : offset ≤ s.length := position?_isSome_iff.1 (by simp [h])
  obtain ⟨q, hq, hback⟩ := offset_position_ofText hs hle
  obtain rfl : p = q := Option.some.inj (h.symm.trans hq)
  exact offset?_eq_some_iff.1 hback

lemma position?_le {q : Position} {offset' : ℕ} (hs : s.length < 2 ^ 32 - 1)
    (hle : offset ≤ offset') (hp : (ofText s).position? offset = some p)
    (hq : (ofText s).position? offset' = some q) : p.le q :=
  Position.le_iff.2
    ((placeAt_of_position? hs hp).le_of_le (placeAt_of_position? hs hq) hle)

end

end LineIndex

end LatexReview
