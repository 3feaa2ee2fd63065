import Mathlib
import LatexReview.Json.Token
import LatexReview.Proofs.Text.Fields

/-!
The texts of numbers.

Whatever number is written, its text is one number token: digits without leading zeros, and
digits on both sides of a point. An integer of 64 bits is read as itself.
-/

namespace LatexReview

namespace Text

variable {c : Char} {n : ℕ} {digits : Text}

lemma isDigit_eq (c : Char) : isDigit c = c.isDigit := by
  simp [isDigit, Char.isDigit, Char.le_def]

lemma exists_numeral (h : 0 < n) : ∃ d rest, numeral n = d :: rest ∧ d ≠ '0' := by
  induction n using Nat.strong_induction_on with
  | _ n ih =>
    by_cases hsmall : n < 10
    · refine ⟨n.digitChar, [], Nat.toDigits_of_lt_base hsmall, ?_⟩
      interval_cases n <;> decide
    · have hle : 10 ≤ n := Nat.le_of_not_lt hsmall
      obtain ⟨d, rest, hrest, hd⟩ := ih (n / 10) (by omega) (by omega)
      refine ⟨d, rest ++ [(n % 10).digitChar], ?_, hd⟩
      rw [numeral, Nat.toDigits_of_base_le (by decide) hle,
        show Nat.toDigits 10 (n / 10) = d :: rest from hrest]
      rfl

end Text

namespace Binary64

variable {x unit : ℚ} {e top : ℤ}

/-! ### Shortest decimals are positive -/

lemma powerOfTen_eq (e : ℤ) : powerOfTen e = (10 : ℚ) ^ e := by
  have hpow : ∀ n : ℕ, ((Nat.pow 10 n : ℕ) : ℚ) = (10 : ℚ) ^ n := fun n => by
    rw [Nat.pow_eq]
    push_cast
    rfl
  unfold powerOfTen
  split
  · rename_i h
    rw [hpow, ← zpow_natCast, Int.toNat_of_nonneg h]
  · rename_i h
    rw [hpow, ← zpow_natCast, Int.toNat_of_nonneg (by omega), zpow_neg, one_div, inv_inv]

lemma powerOfTen_pos (e : ℤ) : 0 < powerOfTen e := by
  rw [powerOfTen_eq]
  positivity

lemma powerOfTen_mono {e e' : ℤ} (h : e ≤ e') : powerOfTen e ≤ powerOfTen e' := by
  rw [powerOfTen_eq, powerOfTen_eq]
  exact zpow_le_zpow_right₀ (by norm_num) h

lemma le_of_length_toDigits {n : ℕ} (h : 0 < n) :
    (10 : ℚ) ^ ((Nat.toDigits 10 n).length - 1 : ℤ) ≤ n := by
  have hlength : 0 < (Nat.toDigits 10 n).length := Nat.length_toDigits_pos
  have hle : 10 ^ ((Nat.toDigits 10 n).length - 1) ≤ n := by
    rcases Nat.eq_zero_or_pos ((Nat.toDigits 10 n).length - 1) with hzero | hpos
    · rw [hzero, pow_zero]
      exact h
    · by_contra hlt
      have hshort := (Nat.length_toDigits_le_iff (by decide) hpos).2 (Nat.lt_of_not_le hlt)
      omega
  have hcast : (((Nat.toDigits 10 n).length - 1 : ℕ) : ℤ) = (Nat.toDigits 10 n).length - 1 := by
    omega
  rw [← hcast, zpow_natCast]
  exact_mod_cast hle

lemma lt_of_length_toDigits (n : ℕ) : (n : ℚ) < (10 : ℚ) ^ ((Nat.toDigits 10 n).length : ℤ) := by
  have hlt := (Nat.length_toDigits_le_iff (b := 10) (n := n) (by decide)
    Nat.length_toDigits_pos).1 le_rfl
  rw [zpow_natCast]
  exact_mod_cast hlt

lemma powerOfTen_decimalExponent_le (h : 0 < x) : powerOfTen (decimalExponent x) ≤ x := by
  unfold decimalExponent
  dsimp only
  split
  · assumption
  · have hnum : 0 < x.num := Rat.num_pos.2 h
    have hx : x = (x.num.toNat : ℚ) / x.den := by
      have hcast : ((x.num.toNat : ℤ) : ℚ) = (x.num : ℚ) := by
        rw [Int.toNat_of_nonneg hnum.le]
      rw [← Int.cast_natCast, hcast, Rat.num_div_den]
    have hlow := le_of_length_toDigits (n := x.num.toNat) (by omega)
    have hhigh := lt_of_length_toDigits x.den
    calc powerOfTen (_ - _ - 1)
        = 10 ^ ((Nat.toDigits 10 x.num.toNat).length - 1 : ℤ) /
            10 ^ ((Nat.toDigits 10 x.den).length : ℤ) := by
          rw [powerOfTen_eq, ← zpow_sub₀ (by norm_num)]
          congr 1
          omega
      _ ≤ (x.num.toNat : ℚ) / x.den :=
          div_le_div₀ (by positivity) hlow (by exact_mod_cast x.den_pos) hhigh.le
      _ = x := hx.symm

lemma one_le_floor_div (hunit : 0 < unit) (h : unit ≤ x) : 1 ≤ (x / unit).floor := by
  rw [Rat.le_floor_iff]
  exact_mod_cast (one_le_div hunit).2 h

lemma pos_of_readsBack? {digits : ℕ} (hunit : 0 < unit) (h : unit ≤ x)
    (hdigits : readsBack? x unit = some digits) : 0 < digits := by
  have hlow := one_le_floor_div hunit h
  unfold readsBack? at hdigits
  dsimp only at hdigits
  grind

lemma shortestFrom_pos {count more : ℕ} (htop : powerOfTen top ≤ x) (hcount : 1 ≤ count) :
    0 < (shortestFrom x top count more).1 := by
  induction more generalizing count with
  | zero =>
    have hfloor := one_le_floor_div (powerOfTen_pos (top - 17))
      ((powerOfTen_mono (by omega)).trans htop)
    rw [shortestFrom]
    omega
  | succ more ih =>
    rw [shortestFrom]
    split
    · rename_i digits hdigits
      exact pos_of_readsBack? (powerOfTen_pos _) ((powerOfTen_mono (by omega)).trans htop) hdigits
    · exact ih (by omega)

lemma shortest_pos (h : 0 < x) : 0 < (shortest x).1 :=
  shortestFrom_pos (powerOfTen_decimalExponent_le h) le_rfl

end Binary64

namespace Json.Token

variable {stage : Stage} {c : Char} {s digits : Text} {n : ℕ} {e : ℤ}

/-! ### The stages of a number -/

/-- The stage after a text that belongs to the number. -/
def Stage.run? (stage : Stage) (s : Text) : Option Stage := s.foldlM Stage.next? stage

lemma Stage.run?_cons (stage : Stage) (c : Char) (s : Text) :
    stage.run? (c :: s) = (stage.next? c).bind fun next => next.run? s := by
  rw [Stage.run?, List.foldlM_cons]
  rfl

lemma Stage.run?_append {next : Stage} (h : stage.run? s = some next) (t : Text) :
    stage.run? (s ++ t) = next.run? t := by
  rw [Stage.run?, List.foldlM_append, show s.foldlM Stage.next? stage = some next from h]
  rfl

def Digits (s : Text) : Prop := ∀ c ∈ s, Text.isDigit c = true

lemma digits_numeral (n : ℕ) : Digits (Text.numeral n) := by
  intro c hc
  rw [Text.isDigit_eq]
  exact Text.isDigit_of_mem_numeral hc

lemma Digits.cons_iff : Digits (c :: digits) ↔ Text.isDigit c ∧ Digits digits :=
  List.forall_mem_cons

/-- The stages that more digits leave as they are. -/
inductive Stage.Open : Stage → Prop
  | whole : Open .whole
  | fraction : Open .fraction
  | exponent : Open .exponent

lemma Stage.Open.next?_eq (h : stage.Open) (hc : Text.isDigit c) : stage.next? c = some stage := by
  have hpoint : c ≠ '.' := by rintro rfl; simp [Text.isDigit] at hc
  have he : c ≠ 'e' := by rintro rfl; simp [Text.isDigit] at hc
  have hE : c ≠ 'E' := by rintro rfl; simp [Text.isDigit] at hc
  cases h <;> simp [Stage.next?, hc, hpoint, he, hE]

lemma Stage.Open.run?_digits (h : stage.Open) (hdigits : Digits digits) :
    stage.run? digits = some stage := by
  induction digits with
  | nil => rfl
  | cons c digits ih =>
    obtain ⟨hc, hrest⟩ := Digits.cons_iff.1 hdigits
    rw [Stage.run?_cons, h.next?_eq hc]
    exact ih hrest

lemma Stage.run?_point (h : stage = .zero ∨ stage = .whole) (hdigits : Digits digits)
    (hne : digits ≠ []) : stage.run? ('.' :: digits) = some .fraction := by
  obtain ⟨c, rest, rfl⟩ := List.exists_cons_of_ne_nil hne
  obtain ⟨hc, hrest⟩ := Digits.cons_iff.1 hdigits
  have hpoint : stage.next? '.' = some .point := by rcases h with rfl | rfl <;> rfl
  have hfirst : Stage.point.next? c = some .fraction := by simp [Stage.next?, hc]
  rw [Stage.run?_cons, hpoint, Option.bind_some, Stage.run?_cons, hfirst, Option.bind_some,
    Stage.Open.fraction.run?_digits hrest]

lemma Stage.run?_exponent (h : stage = .whole ∨ stage = .fraction) (e : ℤ) :
    stage.run? ('e' :: Binary64.exponentText e) = some .exponent := by
  have hmark : stage.next? 'e' = some .exponentMark := by rcases h with rfl | rfl <;> rfl
  obtain ⟨c, rest, hnumeral⟩ := List.exists_cons_of_ne_nil (Text.numeral_ne_nil e.natAbs)
  have hdigits := digits_numeral e.natAbs
  rw [hnumeral] at hdigits
  obtain ⟨hc, hrest⟩ := Digits.cons_iff.1 hdigits
  have hsign : Stage.exponentMark.next? (if e < 0 then '-' else '+') = some .exponentSign := by
    split <;> rfl
  have hfirst : Stage.exponentSign.next? c = some .exponent := by simp [Stage.next?, hc]
  rw [Binary64.exponentText, hnumeral, Stage.run?_cons, hmark, Option.bind_some, Stage.run?_cons,
    hsign, Option.bind_some, Stage.run?_cons, hfirst, Option.bind_some,
    Stage.Open.exponent.run?_digits hrest]

lemma Stage.run?_whole (hc : Text.isDigit c) (hzero : c ≠ '0') (hdigits : Digits digits) :
    Stage.sign.run? (c :: digits) = some .whole := by
  have hfirst : Stage.sign.next? c = some .whole := by simp [Stage.next?, hc, hzero]
  rw [Stage.run?_cons, hfirst, Option.bind_some, Stage.Open.whole.run?_digits hdigits]

/-! ### The texts of numbers -/

/-- A text that is a number from its first character to its last. -/
inductive NumberText : Text → Prop
  | plain {s : Text} {stage : Stage} (hrun : Stage.sign.run? s = some stage)
    (hcomplete : stage.complete) : NumberText s
  | negative {s : Text} {stage : Stage} (hrun : Stage.sign.run? s = some stage)
    (hcomplete : stage.complete) : NumberText ('-' :: s)

lemma exists_run?_numeral (n : ℕ) :
    ∃ stage, Stage.sign.run? (Text.numeral n) = some stage ∧ stage.complete := by
  rcases Nat.eq_zero_or_pos n with rfl | hpos
  · exact ⟨.zero, rfl, rfl⟩
  · obtain ⟨d, rest, hnumeral, hd⟩ := Text.exists_numeral hpos
    have hdigits := digits_numeral n
    rw [hnumeral] at hdigits ⊢
    obtain ⟨hc, hrest⟩ := Digits.cons_iff.1 hdigits
    exact ⟨.whole, Stage.run?_whole hc hd hrest, rfl⟩

lemma exists_significant (h : 0 < n) : ∃ d rest, Binary64.significant (Text.numeral n) = d :: rest ∧
    d ≠ '0' ∧ Text.isDigit d ∧ Digits rest := by
  obtain ⟨d, rest, hnumeral, hd⟩ := Text.exists_numeral h
  have hstart : Binary64.significant (Text.numeral n) <+: Text.numeral n :=
    List.rdropWhile_prefix _ _
  have hne : Binary64.significant (Text.numeral n) ≠ [] := by
    intro hnil
    have hzeros := List.rdropWhile_eq_nil_iff.1 hnil
    refine hd (of_decide_eq_true (hzeros d ?_))
    simp [hnumeral]
  obtain ⟨first, others, hsignificant⟩ := List.exists_cons_of_ne_nil hne
  have hdigits : Digits (first :: others) := by
    intro c hc
    rw [← hsignificant] at hc
    exact digits_numeral n c (hstart.subset hc)
  have hfirst : first = d := by
    rw [hsignificant, hnumeral, List.cons_prefix_cons] at hstart
    exact hstart.1
  obtain ⟨hc, hrest⟩ := Digits.cons_iff.1 hdigits
  exact ⟨first, others, hsignificant, hfirst ▸ hd, hc, hrest⟩

/-! ### The notations of a positive number -/

lemma digits_append {s t : Text} (hs : Digits s) (ht : Digits t) : Digits (s ++ t) := by
  intro c hc
  rcases List.mem_append.1 hc with hc | hc
  · exact hs c hc
  · exact ht c hc

lemma digits_zeros (n : ℕ) : Digits (List.replicate n '0') := by
  intro c hc
  rw [List.eq_of_mem_replicate hc]
  rfl

lemma run?_scientific (hc : Text.isDigit c) (hzero : c ≠ '0') (hdigits : Digits digits) (e : ℤ) :
    Stage.sign.run? ([c] ++ (if digits = [] then [] else '.' :: digits) ++
      'e' :: Binary64.exponentText e) = some .exponent := by
  have hfirst : Stage.sign.run? [c] = some .whole := Stage.run?_whole hc hzero (by simp [Digits])
  rw [List.append_assoc, Stage.run?_append hfirst]
  split
  · exact Stage.run?_exponent (.inl rfl) e
  · rename_i hne
    rw [Stage.run?_append (Stage.run?_point (.inr rfl) hdigits hne)]
    exact Stage.run?_exponent (.inr rfl) e

lemma run?_belowOne (hdigits : Digits digits) (hne : digits ≠ []) (zeros : ℕ) :
    Stage.sign.run? ("0.".toList ++ List.replicate zeros '0' ++ digits) = some .fraction := by
  have hfirst : Stage.sign.run? ['0'] = some .zero := rfl
  rw [show "0.".toList = ['0'] ++ ['.'] from rfl, List.append_assoc, List.append_assoc,
    Stage.run?_append hfirst, List.singleton_append]
  exact Stage.run?_point (.inl rfl) (digits_append (digits_zeros zeros) hdigits) (by simp [hne])

lemma run?_positional (hc : Text.isDigit c) (hzero : c ≠ '0') (hdigits : Digits digits)
    (whole zeros : ℕ) :
    Stage.sign.run? ((c :: digits).take (whole + 1) ++ List.replicate zeros '0' ++ '.' ::
      if (c :: digits).drop (whole + 1) = [] then ['0'] else (c :: digits).drop (whole + 1)) =
      some .fraction := by
  have htake : Digits (digits.take whole) := fun d hd => hdigits d (List.mem_of_mem_take hd)
  have hdrop : Digits (digits.drop whole) := fun d hd => hdigits d (List.mem_of_mem_drop hd)
  have hleft : Stage.sign.run? (c :: (digits.take whole ++ List.replicate zeros '0')) =
      some .whole :=
    Stage.run?_whole hc hzero (digits_append htake (digits_zeros zeros))
  rw [List.take_succ_cons, List.cons_append, Stage.run?_append hleft, List.drop_succ_cons]
  split
  · exact Stage.run?_point (.inr rfl) (digits_zeros 1) (by simp)
  · rename_i hne
    exact Stage.run?_point (.inr rfl) hdrop hne

lemma exists_run?_magnitudeText (x : ℚ) :
    ∃ stage, Stage.sign.run? (Binary64.magnitudeText x) = some stage ∧ stage.complete := by
  unfold Binary64.magnitudeText
  split
  · exact ⟨.fraction, rfl, rfl⟩
  · rename_i hx
    have hpos := Binary64.shortest_pos (lt_of_not_ge hx)
    generalize Binary64.shortest x = decimal at hpos
    obtain ⟨number, weight⟩ := decimal
    obtain ⟨d, rest, hdigits, hzero, hd, hrest⟩ := exists_significant hpos
    dsimp only at hdigits ⊢
    rw [hdigits]
    split
    · exact ⟨.exponent, run?_scientific hd hzero hrest _, rfl⟩
    · split
      · exact ⟨.fraction, run?_belowOne (Digits.cons_iff.2 ⟨hd, hrest⟩) (by simp) _, rfl⟩
      · exact ⟨.fraction, run?_positional hd hzero hrest _ _, rfl⟩

/-- **Each number is written as a number.** -/
lemma numberText_render (n : Number) : NumberText n.render := by
  cases n with
  | integer n =>
    obtain ⟨stage, hrun, hcomplete⟩ := exists_run?_numeral n.natAbs
    rw [Number.render, integerText]
    split
    · exact .negative hrun hcomplete
    · exact .plain hrun hcomplete
  | double x =>
    obtain ⟨stage, hrun, hcomplete⟩ := exists_run?_magnitudeText x.magnitude
    rw [Number.render, Binary64.render]
    split
    · exact .negative hrun hcomplete
    · exact .plain hrun hcomplete

end Json.Token

namespace Json

variable {n : ℕ}

/-! ### Integers -/

lemma takeDigits_of_lt {digits : Text} {start : ℕ}
    (h : digits.foldl (fun n c => 10 * n + Text.digitValue c) start < UInt64.size) :
    takeDigits start digits =
      (digits.foldl (fun n c => 10 * n + Text.digitValue c) start, []) := by
  induction digits generalizing start with
  | nil => rfl
  | cons c digits ih =>
    have hmono : ∀ (digits : Text) (start : ℕ),
        start ≤ digits.foldl (fun n c => 10 * n + Text.digitValue c) start := by
      intro digits
      induction digits with
      | nil => exact fun start => le_rfl
      | cons c digits ih =>
        intro start
        exact le_trans (by omega) (ih (10 * start + Text.digitValue c))
    rw [List.foldl_cons] at h
    have hnext := lt_of_le_of_lt (hmono digits _) h
    rw [takeDigits, List.foldl_cons, Nat.mul_comm start 10, if_pos hnext, ih h]

lemma digitsValue_numeral (n : ℕ) : Text.digitsValue (Text.numeral n) = n :=
  Nat.ofDigitChars_ten_toDigits

lemma takeDigits_numeral (h : n < UInt64.size) : takeDigits 0 (Text.numeral n) = (n, []) := by
  have hvalue := digitsValue_numeral n
  rw [Text.digitsValue] at hvalue
  have hlt : (Text.numeral n).foldl (fun n c => 10 * n + Text.digitValue c) 0 < UInt64.size := by
    rwa [hvalue]
  have htake := takeDigits_of_lt hlt
  rwa [hvalue] at htake

lemma split_numeral (negative : Bool) (n : ℕ) :
    Decimal.split negative (Text.numeral n) = ⟨negative, Text.numeral n, [], none⟩ := by
  have hdigits := Token.digits_numeral n
  have hall : ∀ c ∈ Text.numeral n, Text.isDigit c = true := hdigits
  rw [Decimal.split, List.takeWhile_eq_self_iff.2 hall, List.dropWhile_eq_nil_iff.2 hall]

lemma ofNumeral_numeral (n : ℕ) :
    ofNumeral (Text.numeral n) = ofNumeral.decimal false (Text.numeral n) (Text.numeral n) ∧
      ofNumeral ('-' :: Text.numeral n) =
        ofNumeral.decimal true (Text.numeral n) ('-' :: Text.numeral n) := by
  rcases Nat.eq_zero_or_pos n with rfl | hpos
  · exact ⟨rfl, rfl⟩
  · obtain ⟨d, rest, hnumeral, hd⟩ := Text.exists_numeral hpos
    have hsigns : '-' ∉ d :: rest ∧ '+' ∉ d :: rest := by
      rw [← hnumeral]
      exact ⟨Text.not_mem_numeral (by decide) n, Text.not_mem_numeral (by decide) n⟩
    have hminus : ¬ d = '-' := fun h => hsigns.1 (by simp [h])
    have hplus : ¬ d = '+' := fun h => hsigns.2 (by simp [h])
    rw [hnumeral]
    constructor
    · simp [ofNumeral, hminus, hplus]
      split
      · simp_all
      · rfl
    · simp [ofNumeral]
      split
      · simp_all
      · rfl

lemma ofNumeral_integerText {k : ℤ} (hlow : -(signedBound : ℤ) ≤ k) (hhigh : k < UInt64.size) :
    ofNumeral (integerText k) = .number (.integer k) := by
  have hbound : signedBound < UInt64.size := by decide
  have hsize : k.natAbs < UInt64.size := by omega
  obtain ⟨hplain, hnegative⟩ := ofNumeral_numeral k.natAbs
  rw [integerText]
  split
  · rename_i hneg
    have hzero : ¬ k.natAbs = 0 := by omega
    have hsigned : ¬ signedBound < k.natAbs := by omega
    rw [hnegative, ofNumeral.decimal, split_numeral, Decimal.value?, takeDigits_numeral hsize]
    simp [hzero, hsigned, abs_of_neg hneg]
  · rename_i hneg
    have hvalue : |k| = k := abs_of_nonneg (by omega)
    rw [hplain, ofNumeral.decimal, split_numeral, Decimal.value?, takeDigits_numeral hsize]
    simp [hvalue]

end Json

end LatexReview
