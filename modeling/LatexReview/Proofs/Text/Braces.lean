import Mathlib
import LatexReview.Text.Basic

/-!
Matching the braces of a text.

An opening brace and a closing one behind it are partners if the text between them is balanced.
Any text is made up of balanced stretches and of the braces without a partner: closing ones
first, then opening ones. The last opening one is the innermost of the groups still open.
-/

namespace LatexReview.Text

variable {s t inner : Text} {c : Char} {i j o : ℕ} {closings openings : List ℕ}

/-- No beginning of a text has more closing braces than opening ones, and all of it has as
many. -/
structure Balanced (s : Text) : Prop where
  le : ∀ before, before <+: s → before.count '}' ≤ before.count '{'
  eq : s.count '}' = s.count '{'

instance (s : Text) : Decidable s.Balanced :=
  decidable_of_iff
    ((∀ before ∈ s.inits, before.count '}' ≤ before.count '{') ∧ s.count '}' = s.count '{')
    ⟨fun h => ⟨fun before hb => h.1 before ((List.mem_inits _ _).2 hb), h.2⟩,
      fun h => ⟨fun before hb => h.le before ((List.mem_inits _ _).1 hb), h.eq⟩⟩

/-- Two braces open and close one group. -/
structure Partners (s : Text) (i j : ℕ) : Prop where
  opening : s[i]? = some '{'
  closing : s[j]? = some '}'
  lt : i < j
  between : Balanced ((s.take j).drop (i + 1))

instance (s : Text) (i j : ℕ) : Decidable (s.Partners i j) :=
  decidable_of_iff (s[i]? = some '{' ∧ s[j]? = some '}' ∧ i < j ∧
      Balanced ((s.take j).drop (i + 1)))
    ⟨fun h => ⟨h.1, h.2.1, h.2.2.1, h.2.2.2⟩, fun h => ⟨h.opening, h.closing, h.lt, h.between⟩⟩

/-- A closing brace without a partner. -/
def LoneClosing (s : Text) (j : ℕ) : Prop := s[j]? = some '}' ∧ ∀ i < j, ¬ s.Partners i j

/-- An opening brace without a partner. -/
def LoneOpening (s : Text) (i : ℕ) : Prop := s[i]? = some '{' ∧ ∀ j < s.length, ¬ s.Partners i j

instance (s : Text) (j : ℕ) : Decidable (s.LoneClosing j) := inferInstanceAs (Decidable (_ ∧ _))

instance (s : Text) (i : ℕ) : Decidable (s.LoneOpening i) := inferInstanceAs (Decidable (_ ∧ _))

/-- The closing braces without a partner, from left to right. -/
def loneClosings (s : Text) : List ℕ := (List.range s.length).filter (s.LoneClosing ·)

/-- The opening braces without a partner, from left to right. -/
def loneOpenings (s : Text) : List ℕ := (List.range s.length).filter (s.LoneOpening ·)

lemma lt_length_of_mem_loneClosings (h : j ∈ s.loneClosings) : j < s.length :=
  List.mem_range.1 (List.mem_filter.1 h).1

lemma lt_length_of_mem_loneOpenings (h : i ∈ s.loneOpenings) : i < s.length :=
  List.mem_range.1 (List.mem_filter.1 h).1

/-! ### Balanced texts -/

lemma prefix_append_cases {before : Text} (h : before <+: s ++ t) :
    before <+: s ∨ ∃ rest, rest <+: t ∧ before = s ++ rest := by
  rcases List.prefix_or_prefix_of_prefix h (List.prefix_append s t) with hb | ⟨rest, rfl⟩
  · exact Or.inl hb
  · exact Or.inr ⟨rest, (List.prefix_append_right_inj s).1 h, rfl⟩

lemma suffix_append_cases {rest : Text} (h : rest <:+ s ++ t) :
    rest <:+ t ∨ ∃ front, front <:+ s ∧ rest = front ++ t := by
  rcases List.suffix_or_suffix_of_suffix h (List.suffix_append s t) with hr | ⟨front, rfl⟩
  · exact Or.inl hr
  · obtain ⟨before, hb⟩ := h
    rw [← List.append_assoc] at hb
    exact Or.inr ⟨front, ⟨before, List.append_cancel_right hb⟩, rfl⟩

lemma balanced_of_not_mem (ho : '{' ∉ s) (hc : '}' ∉ s) : s.Balanced where
  le := by
    intro before hb
    rw [List.count_eq_zero.2 fun hmem => hc (hb.subset hmem)]
    exact Nat.zero_le _
  eq := by rw [List.count_eq_zero.2 ho, List.count_eq_zero.2 hc]

lemma balanced_nil : Balanced [] := balanced_of_not_mem (by simp) (by simp)

lemma Balanced.append (hs : s.Balanced) (ht : t.Balanced) : Balanced (s ++ t) where
  le := by
    intro before hb
    rcases prefix_append_cases hb with hb | ⟨rest, hrest, rfl⟩
    · exact hs.le before hb
    · have := ht.le rest hrest
      have := hs.eq
      simp only [List.count_append]
      omega
  eq := by rw [List.count_append, List.count_append, hs.eq, ht.eq]

lemma Balanced.group (h : inner.Balanced) : Balanced ('{' :: inner ++ ['}']) where
  le := by
    intro before hb
    rcases prefix_append_cases hb with hb | ⟨rest, hrest, rfl⟩
    · rcases List.prefix_cons_iff.1 hb with rfl | ⟨begun, rfl, hbegun⟩
      · exact le_rfl
      · have := h.le begun hbegun
        simp
        omega
    · have hle : rest.count '}' ≤ 1 := by simpa using hrest.sublist.count_le '}'
      have := h.eq
      simp
      omega
  eq := by
    have := h.eq
    simp
    omega

lemma Balanced.suffix_le (h : s.Balanced) {rest : Text} (hr : rest <:+ s) :
    rest.count '{' ≤ rest.count '}' := by
  obtain ⟨before, rfl⟩ := hr
  have hle := h.le before (List.prefix_append before rest)
  have heq := h.eq
  simp only [List.count_append] at heq
  omega

/-! ### Texts by their lone braces -/

/-- A text is made up of balanced stretches, of some closing braces and, behind those, of some
opening ones. The opening ones are listed from the last one on. -/
inductive MadeUp : Text → List ℕ → List ℕ → Prop where
  | balanced {s : Text} (h : s.Balanced) : MadeUp s [] []
  | closed {s inner : Text} {closings : List ℕ} (hs : MadeUp s closings [])
      (hinner : inner.Balanced) : MadeUp (s ++ '}' :: inner) (closings ++ [s.length]) []
  | opened {s inner : Text} {closings openings : List ℕ} (hs : MadeUp s closings openings)
      (hinner : inner.Balanced) : MadeUp (s ++ '{' :: inner) closings (s.length :: openings)

namespace MadeUp

lemma append (h : s.MadeUp closings openings) (ht : t.Balanced) :
    MadeUp (s ++ t) closings openings := by
  cases h with
  | balanced h => exact balanced (h.append ht)
  | closed hs hinner =>
    rw [List.append_assoc]
    exact closed hs (hinner.append ht)
  | opened hs hinner =>
    rw [List.append_assoc]
    exact opened hs (hinner.append ht)

lemma close (h : s.MadeUp closings (o :: openings)) : MadeUp (s ++ ['}']) closings openings := by
  cases h with
  | @opened s inner _ _ hs hinner =>
    have hgroup : s ++ '{' :: inner ++ ['}'] = s ++ ('{' :: inner ++ ['}']) := by simp
    rw [hgroup]
    exact hs.append hinner.group

lemma suffix_le (h : s.MadeUp closings []) {rest : Text} (hr : rest <:+ s) :
    rest.count '{' ≤ rest.count '}' := by
  generalize hopenings : ([] : List ℕ) = openings at h
  induction h generalizing rest with
  | balanced h => exact h.suffix_le hr
  | opened => cases hopenings
  | @closed s inner closings hs hinner ih =>
    rcases suffix_append_cases hr with hr | ⟨front, hfront, rfl⟩
    · rcases List.suffix_cons_iff.1 hr with rfl | hr
      · have := hinner.eq
        simp
        omega
      · exact hinner.suffix_le hr
    · have := ih hfront rfl
      have := hinner.eq
      simp
      omega

lemma balanced_of_nil (h : s.MadeUp closings openings) (hc : closings = []) (ho : openings = []) :
    s.Balanced := by
  cases h with
  | balanced h => exact h
  | closed => simp at hc
  | opened => cases ho

lemma closings_eq_nil (h : s.MadeUp closings []) (hs : s.Balanced) : closings = [] := by
  cases h with
  | balanced => rfl
  | @closed s inner closings hrest =>
    have hle := hs.le (s ++ ['}']) (by simp)
    have := hrest.suffix_le (List.suffix_refl s)
    simp at hle
    omega

end MadeUp

/-! ### The innermost open group -/

/-- The innermost group that is open at the end of a text opens at a place: what follows it is
balanced. -/
def EndsInGroup (s : Text) (i : ℕ) : Prop :=
  ∃ before inner : Text, s = before ++ '{' :: inner ∧ before.length = i ∧ inner.Balanced

lemma Balanced.not_endsInGroup (h : s.Balanced) : ¬ s.EndsInGroup i := by
  rintro ⟨before, inner, rfl, -, hinner⟩
  have hle := h.suffix_le (List.suffix_append before ('{' :: inner))
  have := hinner.eq
  simp at hle
  omega

namespace MadeUp

lemma endsInGroup_iff (h : s.MadeUp closings openings) :
    s.EndsInGroup i ↔ openings.head? = some i := by
  cases openings with
  | nil =>
    refine ⟨?_, by simp⟩
    rintro ⟨before, inner, rfl, -, hinner⟩
    have hle := h.suffix_le (List.suffix_append before ('{' :: inner))
    have := hinner.eq
    simp at hle
    omega
  | cons o openings =>
    cases h with
    | @opened s inner _ _ hs hinner =>
      rw [List.head?_cons, Option.some.injEq]
      constructor
      · -- Of two opening braces with a balanced rest, neither stands behind the other.
        rintro ⟨before, rest, heq, rfl, hrest⟩
        rcases List.append_eq_append_iff.1 heq with ⟨u, rfl, hu⟩ | ⟨u, rfl, hu⟩
        · rcases u with _ | ⟨d, u⟩
          · simp
          · obtain ⟨rfl, rfl⟩ : '{' = d ∧ inner = u ++ '{' :: rest := by simpa using hu
            exact absurd ⟨u, rest, rfl, rfl, hrest⟩ hinner.not_endsInGroup
        · rcases u with _ | ⟨d, u⟩
          · simp
          · obtain ⟨rfl, rfl⟩ : '{' = d ∧ rest = u ++ '{' :: inner := by simpa using hu
            exact absurd ⟨u, inner, rfl, rfl, hinner⟩ hrest.not_endsInGroup
      · rintro rfl
        exact ⟨s, inner, rfl, rfl, hinner⟩

end MadeUp

/-! ### One more character -/

lemma partners_concat (hj : j < s.length) : Partners (s ++ [c]) i j ↔ s.Partners i j := by
  have htake : (s ++ [c]).take j = s.take j := List.take_append_of_le_length hj.le
  have hat : ∀ k < s.length, (s ++ [c])[k]? = s[k]? := fun k hk => List.getElem?_append_left hk
  constructor
  · rintro ⟨ho, hc, hlt, hb⟩
    exact ⟨hat i (by omega) ▸ ho, hat j hj ▸ hc, hlt, htake ▸ hb⟩
  · rintro ⟨ho, hc, hlt, hb⟩
    exact ⟨(hat i (by omega)).trans ho, (hat j hj).trans hc, hlt, htake.symm ▸ hb⟩

lemma partners_last : Partners (s ++ [c]) i s.length ↔ c = '}' ∧ s.EndsInGroup i := by
  constructor
  · rintro ⟨ho, hc, hlt, hb⟩
    rw [List.getElem?_append_left hlt] at ho
    rw [List.take_left' rfl] at hb
    obtain ⟨hi, hbrace⟩ := List.getElem?_eq_some_iff.1 ho
    refine ⟨by simpa using hc, s.take i, s.drop (i + 1), ?_, List.length_take_of_le hlt.le, hb⟩
    rw [← hbrace, ← List.drop_eq_getElem_cons, List.take_append_drop]
  · rintro ⟨rfl, before, inner, rfl, rfl, hinner⟩
    have hbetween : ((before ++ '{' :: inner ++ ['}']).take (before ++ '{' :: inner).length).drop
        (before.length + 1) = inner := by
      rw [List.take_left]
      simp
    exact ⟨by simp, by simp, by simp, hbetween.symm ▸ hinner⟩

lemma loneClosing_concat (hj : j < s.length) : LoneClosing (s ++ [c]) j ↔ s.LoneClosing j := by
  rw [LoneClosing, LoneClosing, List.getElem?_append_left hj]
  simp only [partners_concat hj]

lemma loneClosing_last :
    LoneClosing (s ++ [c]) s.length ↔ c = '}' ∧ ∀ i, ¬ s.EndsInGroup i := by
  have hlt : ∀ i, s.EndsInGroup i → i < s.length := by
    rintro i ⟨before, inner, rfl, rfl, -⟩
    simp
  rw [LoneClosing, List.getElem?_concat_length, Option.some.injEq]
  refine and_congr_right fun hc => ⟨fun h i hi => ?_, fun h i _ hp => h i (partners_last.1 hp).2⟩
  exact h i (hlt i hi) (partners_last.2 ⟨hc, hi⟩)

lemma loneOpening_concat (hi : i < s.length) :
    LoneOpening (s ++ [c]) i ↔ s.LoneOpening i ∧ ¬ (c = '}' ∧ s.EndsInGroup i) := by
  rw [LoneOpening, LoneOpening, List.getElem?_append_left hi, List.length_append,
    List.length_singleton, and_assoc]
  simp only [Nat.forall_lt_succ_right, partners_last]
  refine and_congr_right fun _ => and_congr_left fun _ => ?_
  exact forall₂_congr fun j hj => not_congr (partners_concat hj)

lemma loneOpening_last : LoneOpening (s ++ [c]) s.length ↔ c = '{' := by
  rw [LoneOpening, List.getElem?_concat_length, Option.some.injEq, and_iff_left_iff_imp]
  intro _ j hj hp
  have := hp.lt
  simp at hj
  omega

lemma loneClosings_concat (s : Text) (c : Char) :
    loneClosings (s ++ [c]) =
      s.loneClosings ++ if LoneClosing (s ++ [c]) s.length then [s.length] else [] := by
  rw [loneClosings, List.length_append, List.length_singleton, List.range_succ,
    List.filter_append, List.filter_singleton, loneClosings]
  congr 1
  · refine List.filter_congr fun j hj => ?_
    simp [loneClosing_concat (List.mem_range.1 hj)]
  · simp

lemma loneOpenings_concat (s : Text) (c : Char) :
    loneOpenings (s ++ [c]) =
      (List.range s.length).filter (fun i => LoneOpening (s ++ [c]) i) ++
        if c = '{' then [s.length] else [] := by
  rw [loneOpenings, List.length_append, List.length_singleton, List.range_succ,
    List.filter_append, List.filter_singleton]
  simp [loneOpening_last]

lemma loneOpenings_concat_of_ne (hc : c ≠ '}') :
    loneOpenings (s ++ [c]) = s.loneOpenings ++ if c = '{' then [s.length] else [] := by
  rw [loneOpenings_concat, loneOpenings]
  congr 1
  refine List.filter_congr fun i hi => ?_
  simp [loneOpening_concat (List.mem_range.1 hi), hc]

lemma loneClosings_concat_of_ne (hc : c ≠ '}') : loneClosings (s ++ [c]) = s.loneClosings := by
  simp [loneClosings_concat, loneClosing_last, hc]

lemma lone_append (ho : '{' ∉ t) (hc : '}' ∉ t) :
    loneClosings (s ++ t) = s.loneClosings ∧ loneOpenings (s ++ t) = s.loneOpenings := by
  induction t using List.reverseRecOn with
  | nil => simp
  | append_singleton t c ih =>
    simp only [List.mem_append, List.mem_singleton, not_or] at ho hc
    rw [← List.append_assoc, loneClosings_concat_of_ne (Ne.symm hc.2),
      loneOpenings_concat_of_ne (Ne.symm hc.2), if_neg (Ne.symm ho.2), List.append_nil]
    exact ih ho.1 hc.1

lemma lone_concat_stray (h : s.MadeUp closings []) :
    loneClosings (s ++ ['}']) = s.loneClosings ++ [s.length] ∧
      loneOpenings (s ++ ['}']) = s.loneOpenings := by
  have hnone : ∀ i, ¬ s.EndsInGroup i := fun i hi => by simpa using h.endsInGroup_iff.1 hi
  constructor
  · simp [loneClosings_concat, loneClosing_last, hnone]
  · rw [loneOpenings_concat, loneOpenings]
    simp only [Char.reduceEq, ↓reduceIte, List.append_nil]
    refine List.filter_congr fun i hi => ?_
    simp [loneOpening_concat (List.mem_range.1 hi), hnone]

lemma nodup_loneOpenings (s : Text) : s.loneOpenings.Nodup := List.nodup_range.filter _

lemma lone_concat_close (h : s.MadeUp closings (o :: openings))
    (ho : s.loneOpenings.reverse = o :: openings) :
    loneClosings (s ++ ['}']) = s.loneClosings ∧
      loneOpenings (s ++ ['}']) = openings.reverse := by
  have hin : ∀ i, s.EndsInGroup i ↔ o = i := by simp [h.endsInGroup_iff]
  have hlone : s.loneOpenings = openings.reverse ++ [o] := by
    rw [← List.reverse_cons, ← ho, List.reverse_reverse]
  have hother : ∀ i ∈ openings.reverse, i ≠ o := by
    have hnodup := s.nodup_loneOpenings
    rw [hlone, List.nodup_append] at hnodup
    exact fun i hi => hnodup.2.2 i hi o (List.mem_singleton_self o)
  constructor
  · simp [loneClosings_concat, loneClosing_last, hin]
  · calc
      loneOpenings (s ++ ['}']) = s.loneOpenings.filter (· ≠ o) := by
        rw [loneOpenings_concat, loneOpenings, List.filter_filter]
        simp only [Char.reduceEq, ↓reduceIte, List.append_nil]
        refine List.filter_congr fun i hi => ?_
        simp [loneOpening_concat (List.mem_range.1 hi), hin, and_comm, eq_comm]
      _ = openings.reverse := by
        rw [hlone, List.filter_append, List.filter_eq_self.2 (by simpa using hother)]
        simp

/-- **Every text** is made up of balanced stretches and its lone braces. -/
lemma madeUp (s : Text) : s.MadeUp s.loneClosings s.loneOpenings.reverse := by
  induction s using List.reverseRecOn with
  | nil => exact .balanced balanced_nil
  | append_singleton s c ih =>
    by_cases hclose : c = '}'
    · subst hclose
      cases hopen : (loneOpenings s).reverse with
      | nil =>
        rw [hopen] at ih
        obtain ⟨hclosings, hopenings⟩ := lone_concat_stray ih
        rw [hclosings, hopenings, hopen]
        exact .closed ih balanced_nil
      | cons o openings =>
        rw [hopen] at ih
        obtain ⟨hclosings, hopenings⟩ := lone_concat_close ih hopen
        rw [hclosings, hopenings, List.reverse_reverse]
        exact ih.close
    · rw [loneClosings_concat_of_ne hclose, loneOpenings_concat_of_ne hclose]
      by_cases hopen : c = '{'
      · subst hopen
        rw [if_pos rfl, List.reverse_append]
        exact .opened ih balanced_nil
      · rw [if_neg hopen, List.append_nil]
        refine ih.append (balanced_of_not_mem ?_ ?_)
        · simpa using Ne.symm hopen
        · simpa using Ne.symm hclose

lemma endsInGroup_iff_getLast? : s.EndsInGroup i ↔ s.loneOpenings.getLast? = some i := by
  rw [s.madeUp.endsInGroup_iff, List.head?_reverse]

lemma balanced_iff : s.Balanced ↔ s.loneClosings = [] ∧ s.loneOpenings = [] := by
  have h := s.madeUp
  constructor
  · intro hs
    have hopenings : s.loneOpenings.reverse = [] := by
      rw [← List.head?_eq_none_iff, Option.eq_none_iff_forall_ne_some]
      exact fun i hi => hs.not_endsInGroup (h.endsInGroup_iff.2 hi)
    rw [hopenings] at h
    exact ⟨h.closings_eq_nil hs, List.reverse_eq_nil_iff.1 hopenings⟩
  · rintro ⟨hclosings, hopenings⟩
    exact h.balanced_of_nil hclosings (by rw [hopenings, List.reverse_nil])

end LatexReview.Text
