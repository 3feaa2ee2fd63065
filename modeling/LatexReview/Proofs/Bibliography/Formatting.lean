import Mathlib
import LatexReview.Proofs.Bibliography.Duplicates
import LatexReview.Proofs.Bibliography.Subsequence
import LatexReview.Proofs.Binary64
import LatexReview.Proofs.Text.Case
import LatexReview.Proofs.Text.Fields

/-!
Entries that differ in the form of their values only.

Cleaning takes away what may differ: signs and space around a value, the kind of gaps between its
words, the case of basic letters. So all ratios of such entries are one. A sum of ones is not
rounded below their number, not even where the count has come round to zero, and the mean is above
the threshold.
-/

namespace LatexReview.Bibliography

open Text

variable {a b : Entry} {c : Config} {env : Environment} {d : Document} {path : Path}
  {s value other : Text}

/-! ### Form -/

/-- One change in the form of a value. -/
inductive Reformats : Text → Text → Prop where
  /-- Braces, quotes and white space are put around it. -/
  | wrapped (before value after : Text)
      (hbefore : ∀ c ∈ before, c ∈ ['{', '}', '"'] ∨ isSpace c = true)
      (hafter : ∀ c ∈ after, c ∈ ['{', '}', '"'] ∨ isSpace c = true) :
    Reformats value (before ++ (value ++ after))
  /-- There is other white space at some place. -/
  | spaced (before gap gap' after : Text) (hne : gap ≠ []) (hne' : gap' ≠ [])
      (hgap : ∀ c ∈ gap, isSpace c = true) (hgap' : ∀ c ∈ gap', isSpace c = true) :
    Reformats (before ++ (gap ++ after)) (before ++ (gap' ++ after))
  /-- A letter of the basic alphabet is a small or a capital one. -/
  | recased (before after : Text) (c d : Char) (h : lowerLetter c = lowerLetter d) :
    Reformats (before ++ c :: after) (before ++ d :: after)

/-- Two values differ by changes in form, there and back. -/
def SameContent : Text → Text → Prop := Relation.EqvGen Reformats

lemma sameContent_of_lowerLetters (front : Text) (h : value.lowerLetters = other.lowerLetters) :
    SameContent (front ++ value) (front ++ other) := by
  induction value generalizing front other with
  | nil =>
    obtain rfl : other = [] := List.map_eq_nil_iff.1 h.symm
    exact .refl _
  | cons c value ih =>
    obtain ⟨d, rest, rfl, hletter, hrest⟩ := List.map_eq_cons_iff.1 h.symm
    have hfirst : SameContent (front ++ c :: value) (front ++ d :: value) :=
      .rel _ _ (.recased front value c d hletter.symm)
    have hothers := ih (front ++ [d]) hrest.symm
    rw [List.append_assoc, List.append_assoc] at hothers
    exact hfirst.trans _ _ _ hothers

/-! ### Cleaning -/

/-- A value without braces, quotes and space around it. -/
def core (value : Text) : Text := dropEndWhile isWrapping (value.dropWhile isWrapping)

lemma clean_eq (value : Text) : clean value = (join [' '] (words (core value))).upper := rfl

lemma isWrapping_iff {c : Char} :
    isWrapping c = true ↔ c ∈ ['{', '}', '"'] ∨ isSpace c = true := by
  simp [isWrapping, or_assoc]

lemma core_wrapped {before after : Text} (hbefore : ∀ c ∈ before, isWrapping c = true)
    (hafter : ∀ c ∈ after, isWrapping c = true) (value : Text) :
    core (before ++ (value ++ after)) = core value := by
  rw [core, List.dropWhile_append_of_pos hbefore, List.dropWhile_append, core]
  split_ifs with hempty
  · rw [List.dropWhile_eq_nil_iff.2 hafter, List.isEmpty_iff.1 hempty]
  · exact dropEndWhile_append hafter

lemma words_core_gap {gap : Text} (hne : gap ≠ []) (hgap : ∀ c ∈ gap, isSpace c = true)
    (before after : Text) :
    words (core (before ++ (gap ++ after))) =
      if ∀ c ∈ before, isWrapping c = true then words (core after)
      else if ∀ c ∈ after, isWrapping c = true then words (core before)
      else words (before.dropWhile isWrapping) ++ words (dropEndWhile isWrapping after) := by
  have hwrapping : ∀ c ∈ gap, isWrapping c = true := fun c hc => isWrapping_iff.2 (.inr (hgap c hc))
  split_ifs with hbefore hafter
  · have hall : ∀ c ∈ before ++ gap, isWrapping c = true := fun c hc =>
      (List.mem_append.1 hc).elim (hbefore c) (hwrapping c)
    have hcore := core_wrapped hall (List.forall_mem_nil _) after
    rw [List.append_nil, List.append_assoc] at hcore
    rw [hcore]
  · have hall : ∀ c ∈ gap ++ after, isWrapping c = true := fun c hc =>
      (List.mem_append.1 hc).elim (hwrapping c) (hafter c)
    have hcore := core_wrapped (List.forall_mem_nil _) hall before
    rw [List.nil_append] at hcore
    rw [hcore]
  · have hkept : (before.dropWhile isWrapping).isEmpty ≠ true := by
      rwa [Ne, List.isEmpty_iff, List.dropWhile_eq_nil_iff]
    rw [core, List.dropWhile_append, if_neg hkept, ← List.append_assoc,
      dropEndWhile_append_of_neg hafter, List.append_assoc, words_gap hne hgap]

lemma isWrapping_lowerLetter (c : Char) : isWrapping (lowerLetter c) = isWrapping c :=
  lowerLetter_congr isWrapping (by decide +kernel) c

lemma clean_lowerLetters (value : Text) : clean value.lowerLetters = clean value := by
  have hcomp : isWrapping ∘ lowerLetter = isWrapping := funext isWrapping_lowerLetter
  have hcore : core (value.map lowerLetter) = (core value).map lowerLetter := by
    rw [core, List.dropWhile_map, hcomp, dropEndWhile_map isWrapping_lowerLetter, core]
  have hjoin : join [' '] ((words (core value)).map (List.map lowerLetter)) =
      (join [' '] (words (core value))).map lowerLetter :=
    join_map (f := lowerLetter) [' '] (words (core value))
  rw [lowerLetters, clean_eq, hcore, words_map isSpace_lowerLetter, hjoin]
  exact upper_lowerLetters _

lemma clean_eq_of_reformats (h : Reformats value other) : clean value = clean other := by
  cases h with
  | wrapped before _ after hbefore hafter =>
    have hcore := core_wrapped (fun c hc => isWrapping_iff.2 (hbefore c hc))
      (fun c hc => isWrapping_iff.2 (hafter c hc)) value
    rw [clean_eq, clean_eq, hcore]
  | spaced before gap gap' after hne hne' hgap hgap' =>
    rw [clean_eq, clean_eq, words_core_gap hne hgap, words_core_gap hne' hgap']
  | recased before after c d h =>
    have hletters : lowerLetters (before ++ c :: after) = lowerLetters (before ++ d :: after) := by
      simp [lowerLetters, h]
    rw [← clean_lowerLetters, hletters, clean_lowerLetters]

lemma clean_eq_of_sameContent (h : SameContent value other) : clean value = clean other := by
  induction h with
  | rel value other h => exact clean_eq_of_reformats h
  | refl value => rfl
  | symm value other _ ih => exact ih.symm
  | trans value other third _ _ ih ih' => exact ih.trans ih'

/-! ### Means -/

/-- The total of a tally is not below its count. -/
def Tally.Full (t : Tally) : Prop := (t.count.toNat : ℚ) ≤ t.total

lemma Tally.Full.add {t : Tally} {x : ℚ} (h : t.Full) (hx : 1 ≤ x) :
    (t.add Binary64.round x).Full := by
  have hcount : (t.count + 1).toNat ≤ t.count.toNat + 1 := by
    rw [UInt32.toNat_add]
    exact Nat.mod_le _ _
  have hsum : ((t.count + 1).toNat : ℚ) ≤ t.total + x :=
    calc
      ((t.count + 1).toNat : ℚ) ≤ t.count.toNat + 1 := by exact_mod_cast hcount
      _ ≤ t.total + x := add_le_add h hx
  have hbits : (t.count + 1).toNat ≤ 2 ^ 53 := by
    have := (t.count + 1).toNat_lt
    omega
  exact Binary64.natCast_le_round hbits hsum

lemma Tally.Full.addAll {t : Tally} {xs : List ℚ} (h : t.Full) (hxs : ∀ x ∈ xs, 1 ≤ x) :
    (xs.foldl (Tally.add Binary64.round) t).Full := by
  induction xs generalizing t with
  | nil => exact h
  | cons x xs ih =>
    obtain ⟨hx, hxs⟩ := List.forall_mem_cons.1 hxs
    exact ih (h.add hx) hxs

lemma Tally.Full.one_le_mean {t : Tally} {x : ℚ} (h : t.Full)
    (hx : t.mean? Binary64.round = some x) : 1 ≤ x := by
  rw [Tally.mean?] at hx
  split_ifs at hx with hzero
  obtain rfl := Option.some.inj hx
  have hpos : (0 : ℚ) < t.count.toNat := by
    have hne : t.count.toNat ≠ 0 := fun h0 => hzero (UInt32.toNat_inj.1 h0)
    exact_mod_cast Nat.pos_of_ne_zero hne
  exact Binary64.one_le_round ((one_le_div hpos).2 h)

lemma one_le_ratio_self (value : Text) : 1 ≤ ratio Binary64.round value value := by
  rw [ratio, common_self, ← Nat.two_mul]
  split_ifs with hzero
  · exact le_rfl
  · have hlength : (1 : ℚ) ≤ (2 * value.length : ℕ) :=
      Nat.one_le_cast.2 (Nat.one_le_iff_ne_zero.2 hzero)
    have hround := Binary64.one_le_round hlength
    rw [div_self (zero_lt_one.trans_le hround).ne']
    exact Binary64.one_le_round le_rfl

/-! ### Entries -/

/-- Two entries are of one kind, and where both have a field, its values are of one content. -/
structure Alike (a b : Entry) : Prop where
  kind : a.kind = b.kind
  fields : ∀ name value other, (name, value) ∈ a.fields → b.field? name = some other →
    SameContent value other

lemma Alike.full_tally (h : Alike a b) : (tally Binary64.round a b).Full := by
  have hfirst : (Tally.mk (ratio Binary64.round a.kind b.kind) 1).Full := by
    rw [← h.kind, Tally.Full]
    simpa using one_le_ratio_self a.kind
  refine hfirst.addAll fun x hx => ?_
  obtain ⟨⟨name, value⟩, hvalue, hratio⟩ := List.mem_filterMap.1 hx
  obtain ⟨other, hother, rfl⟩ := Option.map_eq_some_iff.1 hratio
  rw [clean_eq_of_sameContent (h.fields name value other hvalue hother)]
  exact one_le_ratio_self (clean other)

lemma threshold_lt_one : threshold < 1 := by decide +kernel

lemma Alike.areDuplicates (h : Alike a b) : areDuplicates a b = true := by
  rw [Bibliography.areDuplicates, similarity?]
  cases hmean : (tally Binary64.round a b).mean? Binary64.round with
  | none => rfl
  | some x => simpa using threshold_lt_one.trans_le (h.full_tally.one_le_mean hmean)

lemma mem_duplicates (h : areDuplicates a b = true) (before between after : List Entry) :
    (a, b) ∈ duplicates (before ++ a :: (between ++ b :: after)) := by
  induction before with
  | nil =>
    refine List.mem_append_left _ (List.mem_map.2 ⟨b, List.mem_filter.2 ⟨?_, h⟩, rfl⟩)
    simp
  | cons e before ih => exact List.mem_append_right _ ih

/-- **Form does not hide a duplicate.** Of a bibliography that can be read, the checker reports
any two entries of one kind whose common fields have values of one content, the earlier entry
first. -/
theorem check_finds_alike {before between after : List Entry}
    (hpath : bibliographyPath? d = some path) (hread : env.files.readText path = .ok s)
    (hentries : entries s = before ++ a :: (between ++ b :: after)) (h : Alike a b) :
    ∃ ps, (checker.run c env d).outcome = .found ps ∧ pairProblem d.path (a, b) ∈ ps ∧
      (pairProblem d.path (a, b)).text = a.id ++ " <=> ".toList ++ b.id := by
  refine ⟨problems d.path s, ?_, ?_, rfl⟩
  · simp only [checker, outcome, hpath, hread]
  · rw [problems_eq, hentries]
    exact List.mem_map_of_mem (mem_duplicates h.areDuplicates before between after)

/-! ### An entry in two forms -/

def twoForms : Text := "@b(x,t={A  b},n={})@b(y,t=\"a\tB\",n=\"\",u=1)".toList

def twoFormsFiles : FileTree :=
  FileTree.empty.put ["refs.bib".toList] (.file twoForms.toBytes)

def firstForm : Entry := ⟨['b'], ['x'], [(['t'], "{A  b}".toList), (['n'], "{}".toList)]⟩

def secondForm : Entry :=
  ⟨['b'], ['y'], [(['t'], "\"a\tB\"".toList), (['n'], "\"\"".toList), (['u'], ['1'])]⟩

lemma read_twoForms : twoFormsFiles.readText "refs.bib".toList = .ok twoForms :=
  readText_refs twoForms

lemma entries_twoForms :
    entries twoForms = [] ++ firstForm :: ([] ++ secondForm :: []) := by cbv

lemma alike_twoForms : Alike firstForm secondForm := by
  have htitle : SameContent "{A  b}".toList "\"a\tB\"".toList := by
    have hbraced : SameContent ['A', ' ', ' ', 'b'] "{A  b}".toList :=
      .rel _ _ (.wrapped ['{'] _ ['}'] (by simp) (by simp))
    have hgap : SameContent ['A', ' ', ' ', 'b'] ['A', '\t', 'b'] :=
      .rel _ _ (.spaced ['A'] [' ', ' '] ['\t'] ['b'] (by simp) (by simp)
        (by simp [isSpace]) (by simp [isSpace]))
    have hcase : SameContent ['A', '\t', 'b'] ['a', '\t', 'B'] :=
      sameContent_of_lowerLetters [] (by decide)
    have hquoted : SameContent ['a', '\t', 'B'] "\"a\tB\"".toList :=
      .rel _ _ (.wrapped ['"'] _ ['"'] (by simp) (by simp))
    exact (hbraced.symm.trans _ _ _ hgap).trans _ _ _ (hcase.trans _ _ _ hquoted)
  have hnote : SameContent "{}".toList "\"\"".toList := by
    have hbraced : SameContent [] "{}".toList :=
      .rel _ _ (.wrapped ['{'] [] ['}'] (by simp) (by simp))
    have hquoted : SameContent [] "\"\"".toList :=
      .rel _ _ (.wrapped ['"'] [] ['"'] (by simp) (by simp))
    exact hbraced.symm.trans _ _ _ hquoted
  refine ⟨rfl, fun name value other hvalue hother => ?_⟩
  rcases List.mem_pair.1 hvalue with h | h <;> obtain ⟨rfl, rfl⟩ := Prod.mk.inj h
  · exact Option.some.inj hother ▸ htitle
  · exact Option.some.inj hother ▸ hnote

theorem check_finds_alike_twoForms :
    bibliographyPath? citingPage = some "refs.bib".toList ∧
      twoFormsFiles.readText "refs.bib".toList = .ok twoForms ∧
      entries twoForms = [] ++ firstForm :: ([] ++ secondForm :: []) ∧
      Alike firstForm secondForm ∧
      ∃ ps, (checker.run {} ⟨twoFormsFiles, []⟩ citingPage).outcome = .found ps ∧
        pairProblem citingPage.path (firstForm, secondForm) ∈ ps ∧
        (pairProblem citingPage.path (firstForm, secondForm)).text = "x <=> y".toList :=
  ⟨path_citingPage, read_twoForms, entries_twoForms, alike_twoForms,
    check_finds_alike path_citingPage read_twoForms entries_twoForms alike_twoForms⟩

end LatexReview.Bibliography
