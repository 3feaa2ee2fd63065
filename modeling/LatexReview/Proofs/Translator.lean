import Mathlib
import LatexReview.Proofs.Detex.CharMap
import LatexReview.Proofs.LineIndex

/-!
What a translator says of a line and a column of its plain text.

The plain text has such a place or not, and the map leads from it into the source or not;
these are the two reasons to fail, and otherwise the answer is the place that the map leads to.
Nothing is lost in a detexed source, and in a text that is its own source every place is
itself.
-/

namespace LatexReview

namespace Translator

variable {source plain : Text} {charMap : List (Option ℕ)} {line column : UInt32} {offset : ℕ}
  {p : Position}

/-- A map leads from an offset to no place of the source. -/
inductive Lost (source : Text) (charMap : List (Option ℕ)) (offset : ℕ) : Prop where
  | absent (h : charMap[offset]? = none)
  | generated (h : charMap[offset]? = some none)
  | beyond {entry : ℕ} (h : charMap[offset]? = some (some entry)) (hlt : source.length < entry)

/-- What a translator answers for a line and a column, by what the plain text and the map have
there. -/
structure Classified (source plain : Text) (charMap : List (Option ℕ)) (line column : UInt32) :
    Prop where
  outOfRange : (ofMap source plain charMap).locate line column = .error (.outOfRange line column) ↔
    ¬ ∃ offset, plain.PlaceAt line.toNat column.toNat offset
  unmapped : ∀ offset,
    (ofMap source plain charMap).locate line column = .error (.unmapped line column offset) ↔
      plain.PlaceAt line.toNat column.toNat offset ∧ Lost source charMap offset
  located : ∀ offset, plain.PlaceAt line.toNat column.toNat offset →
    ¬ Lost source charMap offset → ∃ p entry,
      (ofMap source plain charMap).locate line column = .ok p ∧
      (ofMap source plain charMap).position? offset = some p ∧
      charMap[offset]? = some (some entry) ∧ source.PlaceAt p.line.toNat p.column.toNat entry

/-- A translator leads from every place of its plain text to one of the source, and keeps their
order. -/
structure Faithful (t : Translator) (plain : Text) : Prop where
  isSome_iff : ∀ i, (t.position? i).isSome ↔ i ≤ plain.length
  monotone : ∀ i j p q, i ≤ j → t.position? i = some p → t.position? j = some q → p.le q
  located : ∀ (line column : UInt32) (offset : ℕ),
    plain.PlaceAt line.toNat column.toNat offset →
      ∃ p, t.position? offset = some p ∧ t.locate line column = .ok p

/-! ### From an offset -/

lemma position?_eq_some_iff :
    (ofMap source plain charMap).position? offset = some p ↔
      ∃ entry, charMap[offset]? = some (some entry) ∧
        (LineIndex.ofText source).position? entry = some p := by
  change (charMap[offset]?.bind fun entry => entry.bind (LineIndex.ofText source).position?) =
    some p ↔ _
  rcases charMap[offset]? with _ | _ | entry
  · simp
  · simp
  · simp

lemma position?_eq_none_iff :
    (ofMap source plain charMap).position? offset = none ↔ Lost source charMap offset := by
  constructor
  · intro h
    rcases hentry : charMap[offset]? with _ | _ | entry
    · exact .absent hentry
    · exact .generated hentry
    · refine .beyond hentry (Nat.lt_of_not_le fun hle => ?_)
      obtain ⟨q, hq⟩ := Option.isSome_iff_exists.1 (LineIndex.position?_isSome_iff.2 hle)
      have hsome : (ofMap source plain charMap).position? offset = some q :=
        position?_eq_some_iff.2 ⟨entry, hentry, hq⟩
      rw [h] at hsome
      exact Option.some_ne_none _ hsome.symm
  · intro hlost
    rw [Option.eq_none_iff_forall_ne_some]
    intro p hp
    obtain ⟨entry, hentry, hplace⟩ := position?_eq_some_iff.1 hp
    cases hlost with
    | absent h => simp [h] at hentry
    | generated h => simp [h] at hentry
    | @beyond other h hlt =>
      obtain rfl : other = entry := by simpa [h] using hentry
      have hle := LineIndex.position?_isSome_iff.1 (Option.isSome_of_eq_some hplace)
      omega

/-! ### From a line and a column -/

lemma locate_of_not_placeAt (h : ¬ ∃ offset, plain.PlaceAt line.toNat column.toNat offset) :
    (ofMap source plain charMap).locate line column = .error (.outOfRange line column) := by
  have hnone : (ofMap source plain charMap).plainLines.offset? ⟨line, column⟩ = none :=
    LineIndex.offset?_eq_none_iff.2 h
  simp only [locate, hnone]

lemma locate_of_placeAt (h : plain.PlaceAt line.toNat column.toNat offset) :
    (ofMap source plain charMap).locate line column =
      ((ofMap source plain charMap).position? offset).elim
        (.error (.unmapped line column offset)) .ok := by
  have hoffset : (ofMap source plain charMap).plainLines.offset? ⟨line, column⟩ = some offset :=
    LineIndex.offset?_of_placeAt h
  simp only [locate, hoffset]
  cases (ofMap source plain charMap).position? offset <;> rfl

lemma classified (hs : source.length < 2 ^ 32 - 1) (plain : Text) (charMap : List (Option ℕ))
    (line column : UInt32) : Classified source plain charMap line column := by
  constructor
  case outOfRange =>
    refine ⟨fun h => ?_, locate_of_not_placeAt⟩
    rintro ⟨offset, hplace⟩
    rw [locate_of_placeAt hplace] at h
    cases hp : (ofMap source plain charMap).position? offset <;> simp [hp] at h
  case unmapped =>
    intro offset
    constructor
    · intro h
      by_cases hplace : ∃ offset, plain.PlaceAt line.toNat column.toNat offset
      · obtain ⟨other, hplace⟩ := hplace
        rw [locate_of_placeAt hplace] at h
        cases hp : (ofMap source plain charMap).position? other with
        | none =>
          obtain rfl : other = offset := by simpa [hp] using h
          exact ⟨hplace, position?_eq_none_iff.1 hp⟩
        | some p => simp [hp] at h
      · rw [locate_of_not_placeAt hplace] at h
        simp at h
    · rintro ⟨hplace, hlost⟩
      rw [locate_of_placeAt hplace, position?_eq_none_iff.2 hlost, Option.elim_none]
  case located =>
    intro offset hplace hlost
    obtain ⟨p, hp⟩ := Option.ne_none_iff_exists'.1 (mt position?_eq_none_iff.1 hlost)
    obtain ⟨entry, hentry, hsource⟩ := position?_eq_some_iff.1 hp
    exact ⟨p, entry, by rw [locate_of_placeAt hplace, hp, Option.elim_some], hp, hentry,
      LineIndex.placeAt_of_position? hs hsource⟩

/-! ### Detexed sources -/

lemma faithful_detex (hs : source.length < 2 ^ 32 - 1) :
    Faithful ((detex source).translator source) (detex source).plain := by
  obtain ⟨entries, hmap, hlength, hordered, hinside⟩ := Detex.exists_entries source
  have hat : ∀ i p, ((detex source).translator source).position? i = some p ↔
      ∃ o, entries[i]? = some o ∧ (LineIndex.ofText source).position? o = some p := by
    intro i p
    rw [Detexed.translator, position?_eq_some_iff, hmap]
    simp
  have hsome : ∀ i, (((detex source).translator source).position? i).isSome ↔
      i ≤ (detex source).plain.length := by
    intro i
    have hbound : i ≤ (detex source).plain.length ↔ i < entries.length := by omega
    rw [hbound]
    constructor
    · intro h
      obtain ⟨p, hp⟩ := Option.isSome_iff_exists.1 h
      obtain ⟨o, ho, -⟩ := (hat i p).1 hp
      exact (List.getElem?_eq_some_iff.1 ho).1
    · intro hi
      have hle : entries[i] ≤ source.length := hinside _ (List.getElem_mem hi)
      obtain ⟨p, hp⟩ := Option.isSome_iff_exists.1 (LineIndex.position?_isSome_iff.2 hle)
      exact Option.isSome_of_eq_some ((hat i p).2 ⟨_, List.getElem?_eq_getElem hi, hp⟩)
  constructor
  case isSome_iff => exact hsome
  case monotone =>
    intro i j p q hij hp hq
    obtain ⟨o, ho, hp⟩ := (hat i p).1 hp
    obtain ⟨o', ho', hq⟩ := (hat j q).1 hq
    obtain ⟨hi, rfl⟩ := List.getElem?_eq_some_iff.1 ho
    obtain ⟨hj, rfl⟩ := List.getElem?_eq_some_iff.1 ho'
    have hle : entries[i] ≤ entries[j] := by
      rcases hij.eq_or_lt with rfl | hlt
      · exact le_rfl
      · exact List.pairwise_iff_getElem.1 hordered i j hi hj hlt
    exact LineIndex.position?_le hs hle hp hq
  case located =>
    intro line column offset hplace
    obtain ⟨p, hp⟩ := Option.isSome_iff_exists.1 ((hsome offset).2 hplace.inside)
    refine ⟨p, hp, ?_⟩
    rw [Detexed.translator, locate_of_placeAt hplace, ← Detexed.translator, hp, Option.elim_some]

/-! ### Texts that are their own source -/

lemma locate_identity {text : Text} (h : text.PlaceAt line.toNat column.toNat offset) :
    (identity text).locate line column = .ok ⟨line, column⟩ := by
  have hentry : ((List.range (text.length + 1)).map some)[offset]? = some (some offset) := by
    simp [Nat.lt_succ_of_le h.inside]
  have hp : (identity text).position? offset = some ⟨line, column⟩ := by
    rw [identity, position?_eq_some_iff]
    refine ⟨offset, hentry, ?_⟩
    rw [LineIndex.position?_of_placeAt h, Position.ofCounts, UInt32.ofNat_toNat,
      UInt32.ofNat_toNat]
  rw [identity, locate_of_placeAt h, ← identity, hp, Option.elim_some]

/-- **Each line and column is classified** by what the plain text and the map have there. A
detexed source is translated faithfully, and a text that is its own source place by place. -/
theorem locate_classified (source : Text) (hs : source.length < 2 ^ 32 - 1) :
    (∀ plain charMap line column, Classified source plain charMap line column) ∧
      Faithful ((detex source).translator source) (detex source).plain ∧
      ∀ (line column : UInt32) (offset : ℕ), source.PlaceAt line.toNat column.toNat offset →
        (identity source).locate line column = .ok ⟨line, column⟩ :=
  ⟨classified hs, faithful_detex hs, fun _ _ _ h => locate_identity h⟩

/-- A command that stands for several characters, and a brace that closes nothing. -/
def dotsSource : Text := "\\ldots\n\x7d".toList

/-- A place that is mapped, one in generated text, and one that is mapped beyond the source. -/
def holedMap : List (Option ℕ) := [some 0, none, some 9]

theorem locate_classified_dots :
    dotsSource.length < 2 ^ 32 - 1 ∧
      (∃ p, (ofMap dotsSource "ab".toList holedMap).locate 1 1 = .ok p ∧
        dotsSource.PlaceAt p.line.toNat p.column.toNat 0) ∧
      (ofMap dotsSource "ab".toList holedMap).locate 1 2 = .error (.unmapped 1 2 1) ∧
      (ofMap dotsSource "ab".toList holedMap).locate 1 3 = .error (.unmapped 1 3 2) ∧
      (¬ ∃ offset, Text.PlaceAt "ab".toList 2 1 offset) ∧
      (∃ p, ((detex dotsSource).translator dotsSource).locate 1 3 = .ok p) ∧
      (identity dotsSource).locate 2 1 = .ok ⟨2, 1⟩ := by
  have hs : dotsSource.length < 2 ^ 32 - 1 := by decide
  obtain ⟨hclassified, hfaithful, hidentity⟩ := locate_classified dotsSource hs
  have hat := hclassified "ab".toList holedMap
  have hmapped : ¬ Lost dotsSource holedMap 0 := by
    rintro (h | h | ⟨h, hlt⟩)
    · simp [holedMap] at h
    · simp [holedMap] at h
    · obtain rfl : 0 = _ := by simpa [holedMap] using h
      simp at hlt
  refine ⟨hs, ?_, ?_, ?_, ?_, ?_, ?_⟩
  · obtain ⟨p, entry, hp, -, hentry, hplace⟩ :=
      (hat 1 1).located 0 ⟨by decide, by decide, by decide⟩ hmapped
    obtain rfl : 0 = entry := by simpa [holedMap] using hentry
    exact ⟨p, hp, hplace⟩
  · exact ((hat 1 2).unmapped 1).2 ⟨⟨by decide, by decide, by decide⟩, .generated rfl⟩
  · exact ((hat 1 3).unmapped 2).2 ⟨⟨by decide, by decide, by decide⟩, .beyond rfl (by decide)⟩
  · exact (hat 2 1).outOfRange.1 (by decide)
  · have hplain : (detex dotsSource).plain = "...\n".toList := by decide +kernel
    have hplace : (detex dotsSource).plain.PlaceAt 1 3 2 := by
      rw [hplain]
      exact ⟨by decide, by decide, by decide⟩
    exact (hfaithful.located 1 3 2 hplace).imp fun _ => And.right
  · exact hidentity 2 1 7 ⟨by decide, by decide, by decide⟩

end Translator

end LatexReview
