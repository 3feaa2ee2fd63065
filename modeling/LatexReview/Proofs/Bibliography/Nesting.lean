import Mathlib
import LatexReview.Bibliography.Entry
import LatexReview.Proofs.Detex.Command
import LatexReview.Proofs.Text.Fields

/-!
How the cuts of a body depend on braces and quotations.

A character that stands at the top nowhere in a text is not cut at there. A sealed text hides
its commas and closing braces, and ends as far outside braces and quotations as it begins. So a
body of sealed parts is cut right behind it, and between its parts.
-/

namespace LatexReview.Bibliography

open Text Detex.State

variable {n : Nesting} {s t rest : Text} {c d : Char} {depth k : ℕ} {q : Bool}

namespace Nesting

def run (n : Nesting) (s : Text) : Nesting := s.foldl step n

@[simp] lemma run_nil (n : Nesting) : n.run [] = n := rfl
@[simp] lemma run_cons (n : Nesting) (c : Char) (s : Text) :
    n.run (c :: s) = (n.step c).run s := rfl

lemma run_append (n : Nesting) (s t : Text) : n.run (s ++ t) = (n.run s).run t := by
  simp [run]

/-- A character does not stand at the top anywhere in a text. -/
def Hides (n : Nesting) (s : Text) (d : Char) : Prop :=
  ∀ before after, s = before ++ d :: after → (n.run before).isTop = false

lemma hides_of_not_mem (h : d ∉ s) : n.Hides s d := by
  rintro before after rfl
  simp at h

lemma hides_cons_iff :
    n.Hides (c :: s) d ↔ (c = d → n.isTop = false) ∧ (n.step c).Hides s d := by
  constructor
  · intro h
    refine ⟨?_, fun before after hs => h (c :: before) after (by simp [hs])⟩
    rintro rfl
    exact h [] s rfl
  · rintro ⟨hfirst, hrest⟩ before after hs
    cases before with
    | nil =>
      obtain ⟨rfl, -⟩ := List.cons.inj hs
      exact hfirst rfl
    | cons b before =>
      obtain ⟨rfl, rfl⟩ := List.cons.inj hs
      exact hrest before after rfl

lemma Hides.append (hs : n.Hides s d) (ht : (n.run s).Hides t d) : n.Hides (s ++ t) d := by
  induction s generalizing n with
  | nil => exact ht
  | cons c s ih =>
    obtain ⟨hfirst, hrest⟩ := hides_cons_iff.1 hs
    exact hides_cons_iff.2 ⟨hfirst, ih hrest ht⟩

end Nesting

/-! ### Cuts -/

lemma splitBody?_of_hides (h : n.Hides s d) (htop : (n.run s).isTop = true) (rest : Text) :
    splitBody? d n (s ++ d :: rest) = some (s, d :: rest) := by
  induction s generalizing n with
  | nil => exact if_pos ⟨rfl, htop⟩
  | cons c s ih =>
    obtain ⟨hfirst, hrest⟩ := Nesting.hides_cons_iff.1 h
    have hgo : ¬ (c = d ∧ n.isTop = true) := by
      rintro ⟨hc, hn⟩
      rw [hfirst hc] at hn
      cases hn
    rw [List.cons_append, splitBody?, if_neg hgo, ih hrest htop]
    rfl

lemma splitParts_cons (h : ¬ (c = ',' ∧ n.isTop = true)) {first : Text} {others : List Text}
    (hrest : splitParts (n.step c) rest = first :: others) :
    splitParts n (c :: rest) = (c :: first) :: others := by
  rw [splitParts, if_neg h, hrest]

lemma splitParts_of_hides (h : n.Hides s ',') : splitParts n s = [s] := by
  induction s generalizing n with
  | nil => rfl
  | cons c s ih =>
    obtain ⟨hfirst, hrest⟩ := Nesting.hides_cons_iff.1 h
    exact splitParts_cons (fun hc => by simp [hfirst hc.1] at hc) (ih hrest)

lemma splitParts_comma (h : n.Hides s ',') (htop : (n.run s).isTop = true) (rest : Text) :
    splitParts n (s ++ ',' :: rest) = s :: splitParts (n.run s) rest := by
  induction s generalizing n with
  | nil => exact if_pos ⟨rfl, htop⟩
  | cons c s ih =>
    obtain ⟨hfirst, hrest⟩ := Nesting.hides_cons_iff.1 h
    exact splitParts_cons (fun hc => by simp [hfirst hc.1] at hc) (ih hrest htop)

/-! ### Sealed texts -/

/-- A text from which nothing leaks: it closes all that it opens, and no comma and no closing
brace in it stands at the top. -/
structure Sealed (s : Text) : Prop where
  run : Nesting.none.run s = .none
  comma : Nesting.none.Hides s ','
  brace : Nesting.none.Hides s '}'

lemma Sealed.append (hs : Sealed s) (ht : Sealed t) : Sealed (s ++ t) where
  run := by rw [Nesting.run_append, hs.run, ht.run]
  comma := hs.comma.append (hs.run.symm ▸ ht.comma)
  brace := hs.brace.append (hs.run.symm ▸ ht.brace)

/-- The signs that the cuts of a body depend on. -/
def signs : List Char := [',', '"', '{', '}']

lemma run_of_plain (h : ∀ c ∈ s, c ∉ ['"', '{', '}']) (n : Nesting) : n.run s = n := by
  induction s generalizing n with
  | nil => rfl
  | cons c s ih =>
    have hstep : n.step c = n := by
      have hc := h c (by simp)
      simp only [List.mem_cons, List.not_mem_nil, or_false, not_or] at hc
      obtain ⟨hquote, hopen, hclose⟩ := hc
      unfold Nesting.step
      split
      · exact absurd rfl hopen
      · exact absurd rfl hclose
      · exact absurd rfl hquote
      · rfl
    rw [Nesting.run_cons, hstep]
    exact ih (fun d hd => h d (by simp [hd])) n

lemma sealed_of_plain (h : ∀ c ∈ s, c ∉ signs) : Sealed s where
  run := run_of_plain (fun c hc hsign => h c hc (List.mem_cons_of_mem _ hsign)) _
  comma := Nesting.hides_of_not_mem fun hc => h _ hc (by simp [signs])
  brace := Nesting.hides_of_not_mem fun hc => h _ hc (by simp [signs])

lemma sealed_of_blank (h : s.blank = true) : Sealed s := by
  refine sealed_of_plain fun c hc hsign => ?_
  have hspace : isSpace c = true := List.all_eq_true.1 h c hc
  simp only [signs, List.mem_cons, List.not_mem_nil, or_false] at hsign
  rcases hsign with rfl | rfl | rfl | rfl <;> simp [isSpace] at hspace

/-- **Sealed parts are read back** from between commas. -/
lemma splitParts_join {parts : List Text} (hne : parts ≠ []) (h : ∀ part ∈ parts, Sealed part) :
    splitParts .none (join [','] parts) = parts := by
  induction parts with
  | nil => exact absurd rfl hne
  | cons part parts ih =>
    have hpart := h part (by simp)
    cases parts with
    | nil => simpa [join] using splitParts_of_hides hpart.comma
    | cons next parts =>
      have htop : (Nesting.none.run part).isTop = true := by rw [hpart.run]; rfl
      rw [join_cons_cons, List.singleton_append, splitParts_comma hpart.comma htop, hpart.run,
        ih (by simp) fun other ho => h other (by simp [ho])]

lemma join_sealed {parts : List Text} (h : ∀ part ∈ parts, Sealed part) :
    Nesting.none.run (join [','] parts) = .none ∧ Nesting.none.Hides (join [','] parts) '}' := by
  induction parts with
  | nil => exact ⟨rfl, Nesting.hides_of_not_mem (by simp [join])⟩
  | cons part parts ih =>
    have hpart := h part (by simp)
    cases parts with
    | nil => simpa [join] using ⟨hpart.run, hpart.brace⟩
    | cons next parts =>
      obtain ⟨hrun, hbrace⟩ := ih fun other ho => h other (by simp [ho])
      have hcomma : Nesting.none.step ',' = .none := rfl
      rw [join_cons_cons, List.singleton_append]
      refine ⟨?_, hpart.brace.append ?_⟩
      · rw [Nesting.run_append, hpart.run, Nesting.run_cons, hcomma, hrun]
      · rw [hpart.run, Nesting.hides_cons_iff, hcomma]
        exact ⟨by decide, hbrace⟩

/-! ### Balanced braces -/

/-- Whether every quote stands in braces, where some are open before. -/
def quotesInside : ℕ → Text → Bool
  | _, [] => true
  | depth, c :: rest =>
    if c = '{' then quotesInside (depth + 1) rest
    else if c = '}' then quotesInside (depth - 1) rest
    else (c ≠ '"' || depth ≠ 0) && quotesInside depth rest

lemma quotesInside_of_not_mem (h : '"' ∉ s) (depth : ℕ) : quotesInside depth s = true := by
  induction s generalizing depth with
  | nil => rfl
  | cons c s ih =>
    obtain ⟨hc, hs⟩ : '"' ≠ c ∧ '"' ∉ s := by simpa using h
    unfold quotesInside
    split_ifs
    · exact ih hs _
    · exact ih hs _
    · simp [hc.symm, ih hs]

/-- At each place of a balanced text with its quotes inside, the braces around the text and those
in it are open, and the quotation around the text, if there is one. Quotes may be anywhere if
there are braces around the text. -/
lemma run_of_nested (h : nested '{' '}' depth (s ++ t))
    (hq : k = 0 → quotesInside depth (s ++ t) = true) :
    ∃ inner, (⟨k + depth, q⟩ : Nesting).run s = ⟨k + inner, q⟩ ∧ nested '{' '}' inner t := by
  induction s generalizing depth with
  | nil => exact ⟨depth, rfl, h⟩
  | cons c s ih =>
    rw [List.cons_append, nested] at h
    rw [List.cons_append, quotesInside] at hq
    rw [Nesting.run_cons]
    split_ifs at h hq with hopen hclose
    · subst hopen
      exact ih h hq
    · subst hclose
      obtain ⟨hd, h⟩ : depth ≠ 0 ∧ nested '{' '}' (depth - 1) (s ++ t) := by simpa using h
      have hstep : (⟨k + depth, q⟩ : Nesting).step '}' = ⟨k + (depth - 1), q⟩ := by
        simp only [Nesting.step, Nesting.mk.injEq, and_true]
        omega
      rw [hstep]
      exact ih h hq
    · have hstep : (⟨k + depth, q⟩ : Nesting).step c = ⟨k + depth, q⟩ := by
        unfold Nesting.step
        split
        · exact absurd rfl hopen
        · exact absurd rfl hclose
        · refine if_neg fun hzero => ?_
          obtain ⟨hk, hd⟩ : k = 0 ∧ depth = 0 := Nat.add_eq_zero_iff.1 hzero
          simp [hk, hd] at hq
        · rfl
      rw [hstep]
      exact ih h fun hk => (Bool.and_eq_true_iff.1 (hq hk)).2

variable {v : Text}

lemma run_balanced (h : nested '{' '}' 0 v) (hq : k = 0 → quotesInside 0 v = true) :
    (⟨k, q⟩ : Nesting).run v = ⟨k, q⟩ := by
  obtain ⟨inner, hrun, hinner⟩ := run_of_nested (t := []) (k := k) (q := q) (by simpa using h)
    (by simpa using hq)
  have hzero : inner = 0 := by simpa [nested] using hinner
  rw [hzero] at hrun
  exact hrun

lemma hides_balanced (h : nested '{' '}' 0 v) (hq : k = 0 → quotesInside 0 v = true)
    (hd : (⟨k, q⟩ : Nesting).isTop = true → d = '}') : (⟨k, q⟩ : Nesting).Hides v d := by
  rintro before after rfl
  obtain ⟨inner, hrun, hinner⟩ := run_of_nested (q := q) h hq
  have hrun : (⟨k, q⟩ : Nesting).run before = ⟨k + inner, q⟩ := hrun
  rw [hrun]
  by_contra htop
  obtain ⟨rfl, rfl, hquote⟩ : k = 0 ∧ inner = 0 ∧ q = false := by
    simpa [Nesting.isTop] using htop
  obtain rfl : d = '}' := hd (by simp [Nesting.isTop, hquote])
  simp [nested] at hinner

lemma sealed_delimited {a b : Char} (inside : Nesting) (ha : a ≠ ',' ∧ a ≠ '}')
    (hopen : Nesting.none.step a = inside) (hclose : inside.step b = .none)
    (htop : inside.isTop = false) (hrun : inside.run v = inside)
    (hides : ∀ d, inside.Hides v d) : Sealed (a :: (v ++ [b])) := by
  have hhides : ∀ d, a ≠ d → Nesting.none.Hides (a :: (v ++ [b])) d := by
    intro d hne
    refine Nesting.hides_cons_iff.2 ⟨fun heq => absurd heq hne, ?_⟩
    rw [hopen]
    refine (hides d).append ?_
    rw [hrun]
    exact Nesting.hides_cons_iff.2 ⟨fun _ => htop, Nesting.hides_of_not_mem List.not_mem_nil⟩
  refine ⟨?_, hhides ',' ha.1, hhides '}' ha.2⟩
  rw [Nesting.run_cons, hopen, Nesting.run_append, hrun, Nesting.run_cons, hclose,
    Nesting.run_nil]

lemma sealed_braced (h : nested '{' '}' 0 v) : Sealed ('{' :: (v ++ ['}'])) :=
  sealed_delimited ⟨1, false⟩ (by decide) rfl rfl rfl (run_balanced h (by simp))
    fun _ => hides_balanced h (by simp) (by simp [Nesting.isTop])

lemma sealed_quoted (h : nested '{' '}' 0 v) (hq : quotesInside 0 v = true) :
    Sealed ('"' :: (v ++ ['"'])) :=
  sealed_delimited ⟨0, true⟩ (by decide) rfl rfl rfl (run_balanced h fun _ => hq)
    fun _ => hides_balanced h (fun _ => hq) (by simp [Nesting.isTop])

end LatexReview.Bibliography
