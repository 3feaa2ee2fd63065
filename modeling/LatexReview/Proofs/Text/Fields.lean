import Mathlib
import LatexReview.Text.Numeral

/-!
Parts of a text, written and read back.

Parts that are joined with a delimiter are read back just when no delimiter begins in them:
neither inside a part, nor at its end together with the delimiter that follows. Words are
read back from between spaces, and numerals are read as the numbers they were written for.
-/

namespace LatexReview.Text

variable {pattern s t rest : Text} {c : Char} {n : ℕ}

/-! ### Separators -/

lemma append_separator_inj {d : Char} {s t x y : Text} (hs : d ∉ s) (ht : d ∉ t)
    (h : s ++ d :: x = t ++ d :: y) : s = t ∧ x = y := by
  have hd : (s ++ d :: x).takeWhile (· ≠ d) = (t ++ d :: y).takeWhile (· ≠ d) := by rw [h]
  have htake : ∀ {u : Text} (v : Text), d ∉ u → (u ++ d :: v).takeWhile (· ≠ d) = u := by
    intro u v hu
    rw [List.takeWhile_append_of_pos]
    · simp
    · intro c hc
      simpa using ne_of_mem_of_not_mem hc hu
  rw [htake x hs, htake y ht] at hd
  subst hd
  exact ⟨rfl, by simpa using h⟩

lemma join_inj {d : Char} {parts others : List Text} (hp : ∀ part ∈ parts, d ∉ part)
    (ho : ∀ part ∈ others, d ∉ part) (hpne : parts ≠ []) (hone : others ≠ []) :
    join [d] parts = join [d] others ↔ parts = others := by
  refine ⟨fun h => ?_, fun h => h ▸ rfl⟩
  have hsplit := congrArg (List.splitOn d) h
  simpa only [join, List.splitOn_intercalate d hp hpne, List.splitOn_intercalate d ho hone]
    using hsplit

lemma eq_false_of_mem_splitOnP {p : Char → Bool} {part : Text} (h : part ∈ s.splitOnP p) :
    ∀ c ∈ part, p c = false := by
  induction s generalizing part with
  | nil =>
    obtain rfl : part = [] := by simpa [List.splitOnP_nil] using h
    simp
  | cons c s ih =>
    rw [List.splitOnP_cons_eq_if_modifyHead] at h
    split at h
    · rcases List.mem_cons.1 h with rfl | h
      · simp
      · exact ih h
    · rename_i hc
      obtain ⟨first, others, hsplit⟩ := List.exists_cons_of_ne_nil (List.splitOnP_ne_nil p s)
      rw [hsplit] at h ih
      rcases List.mem_cons.1 h with rfl | h
      · exact List.forall_mem_cons.2 ⟨by simpa using hc, ih (by simp)⟩
      · exact ih (by simp [h])

lemma not_mem_of_mem_splitOn {d : Char} {part : Text} (h : part ∈ s.splitOn d) : d ∉ part := by
  rw [List.splitOn_eq_splitOnP] at h
  intro hd
  simpa using eq_false_of_mem_splitOnP h d hd

lemma cutChar?_append (h : c ∉ s) (rest : Text) : cutChar? c (s ++ c :: rest) = some (s, rest) := by
  have hne : ∀ d ∈ s, (decide (d ≠ c)) = true := fun d hd => by
    simpa using ne_of_mem_of_not_mem hd h
  rw [cutChar?, List.dropWhile_append_of_pos hne, List.takeWhile_append_of_pos hne]
  simp

/-! ### Joined parts -/

lemma join_cons_cons (pattern s t : Text) (parts : List Text) :
    join pattern (s :: t :: parts) = s ++ (pattern ++ join pattern (t :: parts)) := by
  simp [join, List.intercalate]

lemma join_cons_concat (pattern part : Text) (parts : List Text) (last : Text) :
    join pattern (part :: (parts ++ [last])) =
      part ++ (pattern ++ join pattern (parts ++ [last])) := by
  cases parts with
  | nil => exact join_cons_cons pattern part last []
  | cons next parts => exact join_cons_cons pattern part next (parts ++ [last])

lemma exists_join_concat (pattern : Text) (parts : List Text) (last : Text) :
    ∃ before, join pattern (parts ++ [last]) = before ++ last := by
  induction parts with
  | nil => exact ⟨[], by simp [join]⟩
  | cons part parts ih =>
    obtain ⟨before, hbefore⟩ := ih
    exact ⟨part ++ (pattern ++ before), by simp [join_cons_concat, hbefore]⟩

lemma mem_of_mem_join {parts : List Text} (h : c ∈ join pattern parts) :
    c ∈ pattern ∨ ∃ part ∈ parts, c ∈ part := by
  induction parts with
  | nil => simp [join] at h
  | cons part parts ih =>
    cases parts with
    | nil => exact .inr ⟨part, by simp, by simpa [join] using h⟩
    | cons next parts =>
      rw [join_cons_cons, List.mem_append, List.mem_append] at h
      rcases h with h | h | h
      · exact .inr ⟨part, by simp, h⟩
      · exact .inl h
      · exact (ih h).imp_right fun ⟨other, ho, hc⟩ => ⟨other, by simp [ho], hc⟩

lemma mem_join_of_mem {parts : List Text} {part : Text} (h : part ∈ parts) (hc : c ∈ part) :
    c ∈ join pattern parts := by
  induction parts with
  | nil => simp at h
  | cons first parts ih =>
    cases parts with
    | nil =>
      obtain rfl : part = first := by simpa using h
      simpa [join] using hc
    | cons next parts =>
      rw [join_cons_cons, List.mem_append, List.mem_append]
      rcases List.mem_cons.1 h with rfl | h
      · exact .inl hc
      · exact .inr (.inr (ih h))

/-! ### Delimiters -/

/-- With a pattern right behind a text, no occurrence of the pattern begins in the text. -/
def ClearOf (s pattern : Text) : Prop :=
  ∀ before after, s ++ pattern = before ++ (pattern ++ after) → s.length ≤ before.length

lemma ClearOf.tail (h : ClearOf (c :: s) pattern) : ClearOf s pattern := by
  intro before after heq
  have hle := h (c :: before) after (by simp [heq])
  simpa using hle

lemma cut?_eq_some {before after : Text} (h : cut? pattern s = some (before, after)) :
    s = before ++ (pattern ++ after) := by
  induction s generalizing before with
  | nil =>
    obtain ⟨hp, rfl, rfl⟩ : pattern = [] ∧ [] = before ∧ [] = after := by
      simpa [cut?] using h
    simp [hp]
  | cons c s ih =>
    rw [cut?] at h
    split at h
    · rename_i hprefix
      obtain ⟨tail, htail⟩ := List.isPrefixOf_iff_prefix.1 hprefix
      obtain ⟨rfl, rfl⟩ : [] = before ∧ (c :: s).drop pattern.length = after := by simpa using h
      simp [← htail]
    · obtain ⟨first, hcut, rfl⟩ : ∃ first, cut? pattern s = some (first, after) ∧
          c :: first = before := by
        simpa using h
      rw [ih hcut, List.cons_append]

lemma cut?_first (pattern before after : Text) :
    ∃ first last, cut? pattern (before ++ (pattern ++ after)) = some (first, last) ∧
      first.length ≤ before.length := by
  induction before with
  | nil =>
    rw [List.nil_append]
    cases hs : pattern ++ after with
    | nil =>
      obtain ⟨hp, -⟩ := List.append_eq_nil_iff.1 hs
      exact ⟨[], [], by simp [cut?, hp], le_rfl⟩
    | cons c s =>
      have hprefix : pattern.isPrefixOf (c :: s) := by
        rw [← hs]
        exact List.isPrefixOf_iff_prefix.2 (List.prefix_append _ _)
      exact ⟨[], _, by rw [cut?, if_pos hprefix], le_rfl⟩
  | cons c before ih =>
    rw [List.cons_append, cut?]
    split
    · exact ⟨[], _, rfl, Nat.zero_le _⟩
    · obtain ⟨first, last, hcut, hle⟩ := ih
      exact ⟨c :: first, last, by rw [hcut]; rfl, by simpa using hle⟩

lemma clearOf_of_cut? (h : cut? pattern (s ++ (pattern ++ rest)) = some (s, rest)) :
    ClearOf s pattern := by
  intro before after heq
  obtain ⟨first, last, hcut, hle⟩ := cut?_first pattern before (after ++ rest)
  have hsame : s ++ (pattern ++ rest) = before ++ (pattern ++ (after ++ rest)) := by
    rw [← List.append_assoc, heq]
    simp
  rw [← hsame, h] at hcut
  obtain ⟨rfl, -⟩ := Prod.mk.inj (Option.some.inj hcut)
  exact hle

lemma ClearOf.not_isPrefixOf (h : ClearOf (c :: s) pattern) (rest : Text) :
    ¬ pattern.isPrefixOf (c :: (s ++ (pattern ++ rest))) := by
  intro hprefix
  have hwhole : pattern <+: (c :: s ++ pattern) ++ rest := by
    simpa using List.isPrefixOf_iff_prefix.1 hprefix
  -- An occurrence there would lie in the text and the pattern behind it.
  obtain ⟨after, hafter⟩ : pattern <+: c :: s ++ pattern :=
    List.prefix_of_prefix_length_le hwhole (List.prefix_append _ _) (by simp; omega)
  have hle := h [] after hafter.symm
  simp at hle

lemma ClearOf.cut?_eq (h : ClearOf s pattern) (hp : pattern ≠ []) (rest : Text) :
    cut? pattern (s ++ (pattern ++ rest)) = some (s, rest) := by
  induction s with
  | nil =>
    obtain ⟨c, tail, rfl⟩ := List.exists_cons_of_ne_nil hp
    have hprefix : (c :: tail).isPrefixOf (c :: (tail ++ rest)) :=
      List.isPrefixOf_iff_prefix.2 ⟨rest, rfl⟩
    rw [List.nil_append, List.cons_append, cut?, if_pos hprefix]
    simp
  | cons c s ih =>
    rw [List.cons_append, cut?, if_neg (h.not_isPrefixOf rest), ih h.tail]
    rfl

lemma cut?_append_iff (hp : pattern ≠ []) (rest : Text) :
    cut? pattern (s ++ (pattern ++ rest)) = some (s, rest) ↔ ClearOf s pattern :=
  ⟨clearOf_of_cut?, fun h => h.cut?_eq hp rest⟩

lemma parts_of_cut {before after : Text} (h : cut? pattern s = some (before, after)) (n : ℕ) :
    parts pattern (n + 1 + 1) s = before :: parts pattern (n + 1) after := by
  rw [parts, h]
  exact Nat.succ_ne_zero n

/-- **Joined parts are read back just when each but the last is clear of the delimiter.** -/
lemma parts_join_iff (hp : pattern ≠ []) (fields : List Text) (last : Text) :
    parts pattern (fields.length + 1) (join pattern (fields ++ [last])) = fields ++ [last] ↔
      ∀ field ∈ fields, ClearOf field pattern := by
  induction fields with
  | nil => simp [parts, join, List.intercalate]
  | cons field fields ih =>
    obtain ⟨first, others, hcut, -⟩ :=
      cut?_first pattern field (join pattern (fields ++ [last]))
    rw [List.cons_append, join_cons_concat, List.length_cons, parts_of_cut hcut, List.cons.injEq,
      List.forall_mem_cons, ← cut?_append_iff hp (join pattern (fields ++ [last])), hcut,
      ← ih]
    constructor
    · rintro ⟨rfl, hothers⟩
      have hrest : others = join pattern (fields ++ [last]) := by
        simpa using (cut?_eq_some hcut).symm
      exact ⟨by rw [hrest], hrest ▸ hothers⟩
    · rintro ⟨hfirst, hothers⟩
      obtain ⟨rfl, rfl⟩ := Prod.mk.inj (Option.some.inj hfirst)
      exact ⟨rfl, hothers⟩

/-! ### Words -/

lemma mem_words {word : Text} (h : word ∈ words s) :
    word ≠ [] ∧ ∀ c ∈ word, isSpace c = false := by
  obtain ⟨hsplit, hne⟩ := List.mem_filter.1 h
  exact ⟨by simpa using hne, eq_false_of_mem_splitOnP hsplit⟩

lemma words_append (hc : isSpace c) (s t : Text) : words (s ++ c :: t) = words s ++ words t := by
  rw [words, List.splitOnP_append_cons s t hc, List.filter_append]
  rfl

lemma words_eq_singleton (hne : s ≠ []) (h : ∀ c ∈ s, isSpace c = false) : words s = [s] := by
  rw [words, List.splitOnP_eq_singleton h]
  simp [hne]

lemma words_gap {gap : Text} (hne : gap ≠ []) (h : ∀ c ∈ gap, isSpace c = true) (s t : Text) :
    words (s ++ (gap ++ t)) = words s ++ words t := by
  induction gap generalizing s with
  | nil => exact absurd rfl hne
  | cons c gap ih =>
    have hc := h c (by simp)
    rw [List.cons_append, words_append hc]
    rcases eq_or_ne gap [] with rfl | hgap
    · rfl
    · have hrest := ih hgap (fun d hd => h d (by simp [hd])) []
      rw [List.nil_append] at hrest
      rw [hrest]
      rfl

lemma words_map {f : Char → Char} (hf : ∀ c, isSpace (f c) = isSpace c) (s : Text) :
    words (s.map f) = (words s).map (List.map f) := by
  have hsplit : (s.map f).splitOnP isSpace = (s.splitOnP isSpace).map (List.map f) := by
    induction s with
    | nil => rfl
    | cons c s ih =>
      rw [List.map_cons, List.splitOnP_cons_eq_if_modifyHead, hf, ih,
        List.splitOnP_cons_eq_if_modifyHead]
      split_ifs
      · rfl
      · cases s.splitOnP isSpace <;> rfl
  rw [words, hsplit, words, List.filter_map]
  congr 2
  funext part
  simp [Function.comp]

lemma join_map {f : Char → Char} (between : Text) (parts : List Text) :
    join (between.map f) (parts.map (List.map f)) = (join between parts).map f := by
  induction parts with
  | nil => rfl
  | cons part parts ih =>
    cases parts with
    | nil => simp [join]
    | cons next parts =>
      simp only [List.map_cons] at ih ⊢
      rw [join_cons_cons, join_cons_cons, ih, List.map_append, List.map_append]

/-! ### Dropped ends -/

lemma dropEndWhile_append {p : Char → Bool} (h : ∀ c ∈ t, p c = true) :
    dropEndWhile p (s ++ t) = dropEndWhile p s := by
  have hreverse : ∀ c ∈ t.reverse, p c = true := fun c hc => h c (List.mem_reverse.1 hc)
  rw [dropEndWhile, List.reverse_append, List.dropWhile_append_of_pos hreverse, dropEndWhile]

lemma dropEndWhile_append_of_neg {p : Char → Bool} (h : ¬ ∀ c ∈ t, p c = true) :
    dropEndWhile p (s ++ t) = s ++ dropEndWhile p t := by
  have hkept : t.reverse.dropWhile p ≠ [] := by
    rw [Ne, List.dropWhile_eq_nil_iff]
    simpa using h
  rw [dropEndWhile, List.reverse_append, List.dropWhile_append, if_neg (by simpa using hkept),
    List.reverse_append, List.reverse_reverse, dropEndWhile]

lemma dropEndWhile_map {p : Char → Bool} {f : Char → Char} (hf : ∀ c, p (f c) = p c) (s : Text) :
    dropEndWhile p (s.map f) = (dropEndWhile p s).map f := by
  have hcomp : p ∘ f = p := funext hf
  rw [dropEndWhile, ← List.map_reverse, List.dropWhile_map, hcomp, ← List.map_reverse,
    dropEndWhile]

/-! ### Trimmed ends -/

/-- There is no space at either end. -/
structure Trimmed (s : Text) : Prop where
  head : ∀ c ∈ s.head?, isSpace c = false
  last : ∀ c ∈ s.getLast?, isSpace c = false

lemma trimmed_of_forall (h : ∀ c ∈ s, isSpace c = false) : Trimmed s :=
  ⟨fun c hc => h c (List.mem_of_head? hc), fun c hc => h c (List.mem_of_getLast? hc)⟩

lemma Trimmed.trim_eq (h : Trimmed s) : s.trim = s := by
  have hstart : trimStart s = s := by
    cases s with
    | nil => rfl
    | cons c s => exact List.dropWhile_cons_of_neg (by simp [h.head c rfl])
  rw [trim, hstart]
  refine List.rdropWhile_eq_self_iff.2 fun hne => ?_
  simp [h.last _ (List.getLast?_eq_some_getLast hne)]

lemma trim_cons (hc : isSpace c) (s : Text) : trim (c :: s) = s.trim := by
  rw [trim, trimStart, List.dropWhile_cons_of_pos hc]
  rfl

lemma Trimmed.trim_append {before after : Text} (h : Trimmed s) (hb : before.blank = true)
    (ha : after.blank = true) : trim (before ++ (s ++ after)) = s := by
  have hstart : trimStart (before ++ (s ++ after)) = trimStart (s ++ after) :=
    List.dropWhile_append_of_pos (List.all_eq_true.1 hb)
  have hend : trimEnd (s ++ after) = trimEnd s := dropEndWhile_append (List.all_eq_true.1 ha)
  rw [trim, hstart]
  cases s with
  | nil => exact congrArg trimEnd (List.dropWhile_eq_nil_iff.2 (List.all_eq_true.1 ha))
  | cons c s =>
    have hkeep : ∀ rest, trimStart (c :: rest) = c :: rest := fun rest =>
      List.dropWhile_cons_of_neg (by simp [h.head c rfl])
    have htrim : trimEnd (c :: s) = c :: s := by simpa [trim, hkeep] using h.trim_eq
    rw [List.cons_append, hkeep, ← List.cons_append, hend, htrim]

/-! ### Lists -/

lemma space_join_comma (s : Text) (parts : List Text) :
    ' ' :: join ", ".toList (s :: parts) = join [','] ((s :: parts).map (' ' :: ·)) := by
  induction parts generalizing s with
  | nil => simp [join]
  | cons t parts ih =>
    have hrest := ih t
    rw [join_cons_cons, List.map_cons, List.map_cons, join_cons_cons, ← List.map_cons, ← hrest]
    rfl

lemma filter_trim_splitOn_join {parts : List Text}
    (h : ∀ part ∈ parts, part ≠ [] ∧ part.Trimmed ∧ ',' ∉ part) :
    (((' ' :: join ", ".toList parts).splitOn ',').map trim).filter (· ≠ []) = parts := by
  cases parts with
  | nil => decide
  | cons part parts =>
    have hcomma : ∀ spaced ∈ (part :: parts).map (' ' :: ·), ',' ∉ spaced :=
      List.forall_mem_map.2 fun other ho => by simp [(h other ho).2.2]
    have htrim : ((part :: parts).map (' ' :: ·)).map trim = part :: parts := by
      rw [List.map_map]
      refine (List.map_congr_left fun other ho => ?_).trans (List.map_id _)
      exact (trim_cons (by decide) other).trans (h other ho).2.1.trim_eq
    rw [space_join_comma, join, List.splitOn_intercalate ',' hcomma (by simp), htrim,
      List.filter_eq_self]
    exact fun other ho => by simpa using (h other ho).1

/-! ### Numerals -/

lemma isDigit_of_mem_numeral {c : Char} {n : ℕ} (h : c ∈ numeral n) : c.isDigit = true :=
  Nat.isDigit_of_mem_toDigits (by norm_num) (by norm_num) h

lemma numeral_injective : Function.Injective numeral := by
  intro m n h
  calc
    m = Nat.ofDigitChars 10 (numeral m) 0 := Nat.ofDigitChars_ten_toDigits.symm
    _ = Nat.ofDigitChars 10 (numeral n) 0 := by rw [h]
    _ = n := Nat.ofDigitChars_ten_toDigits

lemma numeral_ne_nil (n : ℕ) : numeral n ≠ [] := by
  rw [numeral]
  exact List.ne_nil_of_length_pos Nat.length_toDigits_pos

lemma not_mem_numeral (h : c.isDigit = false) (n : ℕ) : c ∉ numeral n := by
  intro hc
  simp [isDigit_of_mem_numeral hc] at h

lemma not_isSpace_of_isDigit (h : c.isDigit = true) : isSpace c = false := by
  have hc : 48 ≤ c.toNat ∧ c.toNat ≤ 57 := by
    simpa [Char.isDigit, UInt32.le_iff_toNat_le] using h
  simp [isSpace]
  omega

lemma not_isSpace_of_mem_numeral (h : c ∈ numeral n) : isSpace c = false :=
  not_isSpace_of_isDigit (isDigit_of_mem_numeral h)

lemma words_numeral (n : ℕ) : words (numeral n) = [numeral n] :=
  words_eq_singleton (numeral_ne_nil n) fun _ => not_isSpace_of_mem_numeral

lemma readNumeral?_numeral {bound : ℕ} (h : n < bound) :
    readNumeral? bound (numeral n) = some n := by
  have hplus : stripStart? (numeral n) ['+'] = none := by
    refine if_neg fun hprefix => ?_
    obtain ⟨rest, hrest⟩ := List.isPrefixOf_iff_prefix.1 hprefix
    exact not_mem_numeral (c := '+') (by decide) n (by simp [← hrest])
  have hdigits : (numeral n).all isDigit := by
    refine List.all_eq_true.2 fun c hc => ?_
    simpa [isDigit, Char.isDigit, Char.le_def] using isDigit_of_mem_numeral hc
  have hvalue : digitsValue (numeral n) = n := Nat.ofDigitChars_ten_toDigits
  simp [readNumeral?, hplus, hdigits, hvalue, h, numeral_ne_nil]

end LatexReview.Text
