import Mathlib
import LatexReview.Proofs.Suppression.Consistent

/-!
Suppression read line by line.

A document's record suppresses a problem in a line just when a directive above it still
asks to ignore that line, or a kind that accepts the problem is open both before and after
the line.
-/

namespace LatexReview.Suppression

/-- A suppression covers a line, given by its number. -/
def Spans (s : Suppression) (n : ℕ) : Prop :=
  s.start.toNat ≤ n ∧ ∀ stop, s.stop = some stop → n ≤ stop.toNat

lemma covers_iff_spans {s : Suppression} {line : UInt32} :
    s.covers line ↔ Spans s line.toNat := by
  obtain ⟨kind, start, stop⟩ := s
  cases stop with
  | none => simp [covers, Spans, UInt32.le_iff_toNat_le]
  | some stop => simp [covers, Spans, UInt32.le_iff_toNat_le]

namespace Record

variable {r : Record} {kind : Kind} {m n : ℕ} {line : UInt32} {text : Text}

lemma nextLine_toNat (h : line.toNat + 1 < UInt32.size) :
    (nextLine line).toNat = line.toNat + 1 := by
  have hne : line ≠ 0xFFFFFFFF := by
    rintro rfl
    simp [UInt32.size] at h
  rw [nextLine, if_neg hne, UInt32.toNat_add]
  exact Nat.mod_eq_of_lt h

lemma previousLine_toNat (h : 1 ≤ line.toNat) :
    (previousLine line).toNat = line.toNat - 1 := by
  have hne : line ≠ 0 := by
    rintro rfl
    simp at h
  rw [previousLine, if_neg hne, UInt32.toNat_sub_of_le]
  · rfl
  · exact UInt32.le_iff_toNat_le.2 h

lemma le_lineBelow_iff {count : UInt32} (h : n < UInt32.size) :
    n ≤ (lineBelow line count).toNat ↔ n ≤ line.toNat + count.toNat := by
  unfold lineBelow
  split
  · rename_i hs
    rw [UInt32.toNat_add, Nat.mod_eq_of_lt hs]
  · rename_i hs
    have htop : (0xFFFFFFFF : UInt32).toNat = UInt32.size - 1 := rfl
    omega

lemma asksNext_unique {count other : UInt32} (h : AsksNext text count)
    (h' : AsksNext text other) : count = other := by
  obtain ⟨command, unknown, hc, hr⟩ := h
  obtain ⟨command', unknown', hc', hr'⟩ := h'
  obtain rfl := Option.some.inj (hc.symm.trans hc')
  simp only [Except.ok.injEq, Reading.mk.injEq, Directive.next.injEq, hr] at hr'
  exact hr'.1

lemma not_asksNext (h : ¬ ∃ count, AsksNext text count) :
    ¬ (kind = .lines ∧ ∃ count, AsksNext text count ∧ n ≤ m + 1 + count.toNat) := by
  rintro ⟨-, count, hc, -⟩
  exact h ⟨count, hc⟩

/-! ### Lines that are covered -/

/-- A suppression of some kind covers a line. -/
def Covers (r : Record) (kind : Kind) (n : ℕ) : Prop :=
  ∃ s ∈ r.suppressions, s.kind = kind ∧ Spans s n

/-- A suppression of some kind that is closed already covers a line. -/
def Settles (r : Record) (kind : Kind) (n : ℕ) : Prop :=
  ∃ s ∈ r.suppressions, s.kind = kind ∧ s.stop ≠ none ∧ Spans s n

/-- A record that has read as many lines: what is open starts at the next line at last. -/
structure Upto (r : Record) (m : ℕ) : Prop where
  consistent : r.Consistent
  start_le : ∀ s ∈ r.suppressions, s.stop = none → s.start.toNat ≤ m + 1

lemma Upto.covers_iff (h : r.Upto m) (hn : m < n) :
    r.Covers kind n ↔ r.Settles kind n ∨ kind ∈ r.openKinds := by
  rw [h.consistent.mem_openKinds]
  constructor
  · rintro ⟨s, hs, hk, hspan⟩
    by_cases ho : s.stop = none
    · obtain ⟨kind', start, stop⟩ := s
      simp only at hk ho
      subst hk ho
      exact Or.inr ⟨start, hs⟩
    · exact Or.inl ⟨s, hs, hk, ho, hspan⟩
  · rintro (⟨s, hs, hk, -, hspan⟩ | ⟨start, hs⟩)
    · exact ⟨s, hs, hk, hspan⟩
    · have hstart := h.start_le _ hs rfl
      simp only at hstart
      exact ⟨_, hs, rfl, by simp only; omega, by simp⟩

/-- What the line after `m` lines does to a record that has read these. -/
structure Turn (m : ℕ) (text : Text) (r s : Record) : Prop where
  upto : s.Upto (m + 1)
  above : ∀ kind n, n ≤ m → (s.Covers kind n ↔ r.Covers kind n)
  at_line : ∀ kind, s.Covers kind (m + 1) ↔
    r.Settles kind (m + 1) ∨ kind ∈ r.openKinds ∧ kind ∈ s.openKinds
  below : ∀ kind n, m + 1 < n → n < UInt32.size →
    (s.Settles kind n ↔ r.Settles kind n ∨
      kind = .lines ∧ ∃ count, AsksNext text count ∧ n ≤ m + 1 + count.toNat)

lemma closed_kind {kinds : List Kind} {s : Suppression} :
    (closed kinds line s).kind = s.kind := by
  unfold closed
  split <;> rfl

lemma closed_start {kinds : List Kind} {s : Suppression} :
    (closed kinds line s).start = s.start := by
  unfold closed
  split <;> rfl

lemma closed_stop {kinds : List Kind} {s : Suppression} :
    (closed kinds line s).stop ≠ none ↔ s.stop ≠ none ∨ s.kind ∈ kinds := by
  unfold closed
  split
  · rename_i h
    simp [h.1]
  · rename_i h
    exact ⟨Or.inl, fun hs => hs.elim id fun hk ho => h ⟨hk, ho⟩⟩

lemma spans_closed (kinds : List Kind) (s : Suppression) (n : ℕ) (hline : line.toNat = m + 1) :
    Spans (closed kinds line s) n ↔ Spans s n ∧ (s.kind ∈ kinds → s.stop = none → n ≤ m) := by
  have hprev : (previousLine line).toNat = m := by rw [previousLine_toNat (by omega)]; omega
  unfold closed
  split
  · rename_i h
    simp [Spans, h, hprev]
  · rename_i h
    exact ⟨fun hs => ⟨hs, fun hk ho => absurd ⟨hk, ho⟩ h⟩, And.left⟩

section

variable (hr : r.Upto m) (hline : line.toNat = m + 1) (hmax : m + 2 < UInt32.size)

include hr hline hmax in
lemma Upto.turn_ignoreNext {count : UInt32} (hc : AsksNext text count) :
    Turn m text r (r.ignoreNext count line) := by
  have hnext : (nextLine line).toNat = m + 2 := by rw [nextLine_toNat (by omega), hline]
  have hmem : ∀ s, s ∈ (r.ignoreNext count line).suppressions ↔
      s ∈ r.suppressions ∨ s = ⟨.lines, nextLine line, some (lineBelow line count)⟩ := by
    simp [ignoreNext]
  have hcovers : ∀ kind n, n < m + 2 →
      ((r.ignoreNext count line).Covers kind n ↔ r.Covers kind n) := by
    intro kind n hn
    simp only [Covers, hmem, or_and_right, exists_or, exists_eq_left]
    refine or_iff_left ?_
    rintro ⟨-, hstart, -⟩
    simp only at hstart
    omega
  refine ⟨⟨hr.consistent.ignoreNext, ?_⟩, fun kind n hn => hcovers kind n (by omega), ?_, ?_⟩
  · intro s hs ho
    rcases (hmem s).1 hs with hs | rfl
    · have := hr.start_le s hs ho
      omega
    · simp at ho
  · intro kind
    have hopen : (r.ignoreNext count line).openKinds = r.openKinds := rfl
    rw [hcovers kind _ (by omega), hr.covers_iff (by omega), hopen, and_self_iff]
  · intro kind n hn hsize
    simp only [Settles, hmem, or_and_right, exists_or, exists_eq_left]
    refine or_congr_right ?_
    constructor
    · rintro ⟨rfl, -, -, hstop⟩
      have := (le_lineBelow_iff hsize).1 (hstop _ rfl)
      exact ⟨rfl, count, hc, by omega⟩
    · rintro ⟨rfl, other, ho, hle⟩
      obtain rfl : other = count := asksNext_unique ho hc
      refine ⟨rfl, by simp, by simp only; omega, ?_⟩
      rintro stop hstop
      obtain rfl := Option.some.inj hstop
      exact (le_lineBelow_iff hsize).2 (by omega)

include hr hline hmax in
lemma Upto.turn_startAll {kinds : List Kind} (hc : ¬ ∃ count, AsksNext text count) :
    Turn m text r (r.startAll kinds line) := by
  have hnext : (nextLine line).toNat = m + 2 := by rw [nextLine_toNat (by omega), hline]
  obtain ⟨new, hsup, hnew⟩ := r.suppressions_startAll kinds line
  have hcovers : ∀ kind n, n < m + 2 →
      ((r.startAll kinds line).Covers kind n ↔ r.Covers kind n) := by
    intro kind n hn
    simp only [Covers, hsup, List.mem_append, or_and_right, exists_or]
    refine or_iff_left ?_
    rintro ⟨s, hs, -, hstart, -⟩
    rw [(hnew s hs).1] at hstart
    omega
  have hsettles : ∀ kind n, (r.startAll kinds line).Settles kind n ↔ r.Settles kind n := by
    intro kind n
    simp only [Settles, hsup, List.mem_append, or_and_right, exists_or]
    refine or_iff_left ?_
    rintro ⟨s, hs, -, ho, -⟩
    exact ho (hnew s hs).2
  refine ⟨⟨hr.consistent.startAll, ?_⟩, fun kind n hn => hcovers kind n (by omega), ?_, ?_⟩
  · intro s hs ho
    rw [hsup, List.mem_append] at hs
    rcases hs with hs | hs
    · have := hr.start_le s hs ho
      omega
    · rw [(hnew s hs).1]
      omega
  · intro kind
    rw [hcovers kind _ (by omega), hr.covers_iff (by omega), mem_openKinds_startAll]
    exact or_congr_right ⟨fun h => ⟨h, Or.inl h⟩, And.left⟩
  · intro kind n _ _
    rw [hsettles, or_iff_left (not_asksNext hc)]

include hr hline in
lemma Upto.turn_stopAll {kinds : List Kind} (hc : ¬ ∃ count, AsksNext text count) :
    Turn m text r (r.stopAll kinds line) := by
  have hsup := hr.consistent.suppressions_stopAll kinds line
  have hspans := fun s n => spans_closed kinds s n hline
  have hcovers : ∀ kind n, (r.stopAll kinds line).Covers kind n ↔ ∃ s ∈ r.suppressions,
      s.kind = kind ∧ Spans s n ∧ (s.kind ∈ kinds → s.stop = none → n ≤ m) := by
    intro kind n
    simp only [Covers, hsup, List.mem_map, exists_exists_and_eq_and, closed_kind, hspans]
  refine ⟨⟨hr.consistent.stopAll, ?_⟩, ?_, ?_, ?_⟩
  · intro s hs ho
    rw [hsup] at hs
    obtain ⟨t, ht, rfl⟩ := List.mem_map.1 hs
    have hopen : t.stop = none := by_contra fun hn => closed_stop.2 (Or.inl hn) ho
    have := hr.start_le t ht hopen
    rw [closed_start]
    omega
  · intro kind n hn
    rw [hcovers]
    simp [Covers, hn]
  · intro kind
    rw [hcovers, mem_openKinds_stopAll, hr.consistent.mem_openKinds]
    constructor
    · rintro ⟨s, hs, rfl, hspan, hlate⟩
      by_cases ho : s.stop = none
      · obtain ⟨kind, start, stop⟩ := s
        simp only at ho
        subst ho
        have hk : kind ∉ kinds := fun hk => absurd (hlate hk rfl) (by omega)
        exact Or.inr ⟨⟨start, hs⟩, ⟨start, hs⟩, hk⟩
      · exact Or.inl ⟨s, hs, rfl, ho, hspan⟩
    · rintro (⟨s, hs, rfl, ho, hspan⟩ | ⟨⟨start, hs⟩, -, hk⟩)
      · exact ⟨s, hs, rfl, hspan, fun _ hn => absurd hn ho⟩
      · exact ⟨_, hs, rfl, ⟨hr.start_le _ hs rfl, by simp⟩, fun hin => absurd hin hk⟩
  · intro kind n hn _
    rw [or_iff_left (not_asksNext hc)]
    simp only [Settles, hsup, List.mem_map, exists_exists_and_eq_and, closed_kind, hspans,
      closed_stop]
    constructor
    · rintro ⟨s, hs, rfl, hclosed, hspan, hlate⟩
      refine ⟨s, hs, rfl, fun ho => ?_, hspan⟩
      have := hlate (hclosed.resolve_left (not_not.2 ho)) ho
      omega
    · rintro ⟨s, hs, rfl, ho, hspan⟩
      exact ⟨s, hs, rfl, Or.inl ho, hspan, fun _ hn => absurd hn ho⟩

include hr hline hmax in
lemma Upto.turn_readLine (text : Text) : Turn m text r (r.readLine text line).1 := by
  rcases r.readLine_record text line with ⟨count, hc, he⟩ | ⟨hc, kinds, he | he⟩
  · exact he ▸ hr.turn_ignoreNext hline hmax hc
  · exact he ▸ hr.turn_startAll hline hmax hc
  · exact he ▸ hr.turn_stopAll hline hc

end

/-! ### All lines -/

/-- The kinds that are open after the first `m` lines, or after all if there are fewer. -/
def openAfter (lines : List Text) (m : ℕ) : List Kind :=
  (empty.readLines 1 (lines.take m)).1.openKinds

/-- A directive above line `n` asks to ignore it. The line at index `d` has the number
`d + 1`. -/
def AsksAbove (lines : List Text) (n : ℕ) : Prop :=
  ∃ d text count, lines[d]? = some text ∧ AsksNext text count ∧
    d + 1 < n ∧ n ≤ d + 1 + count.toNat

variable {lines : List Text}

lemma asksAbove_concat : AsksAbove (lines ++ [text]) n ↔ AsksAbove lines n ∨
    lines.length + 1 < n ∧ ∃ count, AsksNext text count ∧ n ≤ lines.length + 1 + count.toNat := by
  constructor
  · rintro ⟨d, t, count, ht, hc, hd, hn⟩
    rcases lt_trichotomy d lines.length with hlt | rfl | hgt
    · rw [List.getElem?_append_left hlt] at ht
      exact Or.inl ⟨d, t, count, ht, hc, hd, hn⟩
    · obtain rfl : text = t := by simpa using ht
      exact Or.inr ⟨hd, count, hc, hn⟩
    · rw [List.getElem?_eq_none (by simpa using hgt)] at ht
      simp at ht
  · rintro (⟨d, t, count, ht, hc, hd, hn⟩ | ⟨hlt, count, hc, hn⟩)
    · have hlt := (List.getElem?_eq_some_iff.1 ht).1
      exact ⟨d, t, count, by rwa [List.getElem?_append_left hlt], hc, hd, hn⟩
    · exact ⟨lines.length, text, count, by simp, hc, hlt, hn⟩

lemma openAfter_concat_of_le (h : m ≤ lines.length) :
    openAfter (lines ++ [text]) m = openAfter lines m := by
  rw [openAfter, openAfter, List.take_append_of_le_length h]

lemma openAfter_of_le (h : lines.length ≤ m) :
    openAfter lines m = (empty.readLines 1 lines).1.openKinds := by
  rw [openAfter, List.take_of_length_le h]

/-- What a record has read is told line by line. -/
structure Reads (lines : List Text) (r : Record) : Prop where
  upto : r.Upto lines.length
  settles : ∀ kind n, lines.length < n → n < UInt32.size →
    (r.Settles kind n ↔ kind = .lines ∧ AsksAbove lines n)
  covers : ∀ kind n, 1 ≤ n → n ≤ lines.length → (r.Covers kind n ↔
    kind = .lines ∧ AsksAbove lines n ∨
      kind ∈ openAfter lines (n - 1) ∧ kind ∈ openAfter lines n)

lemma reads_nil : Reads [] empty where
  upto := ⟨consistent_empty, by simp [empty]⟩
  settles := by simp [Settles, empty, AsksAbove]
  covers := by
    intro kind n h1 h2
    simp at h2
    omega

lemma reads_concat (h : Reads lines (empty.readLines 1 lines).1)
    (hmax : lines.length + 2 < UInt32.size) :
    Reads (lines ++ [text]) (empty.readLines 1 (lines ++ [text])).1 := by
  have hline : (UInt32.ofNat (1 + lines.length)).toNat = lines.length + 1 := by
    rw [UInt32.toNat_ofNat_of_lt' (by omega)]
    omega
  have hturn := h.upto.turn_readLine hline hmax text
  have hread : (empty.readLines 1 (lines ++ [text])).1 =
      ((empty.readLines 1 lines).1.readLine text (UInt32.ofNat (1 + lines.length))).1 := by
    rw [readLines_append]
    rfl
  have hlast : openAfter (lines ++ [text]) (lines.length + 1) =
      (empty.readLines 1 (lines ++ [text])).1.openKinds := openAfter_of_le (by simp)
  rw [← hread] at hturn
  constructor
  case upto => simpa using hturn.upto
  case settles =>
    intro kind n hn hsize
    rw [List.length_append, List.length_singleton] at hn
    rw [hturn.below kind n hn hsize, h.settles kind n (by omega) hsize, asksAbove_concat]
    simp [hn, and_or_left]
  case covers =>
    intro kind n h1 hn
    rw [List.length_append, List.length_singleton] at hn
    rcases hn.eq_or_lt with rfl | hlt
    · rw [hturn.at_line, h.settles kind _ (by omega) (by omega), asksAbove_concat, hlast,
        Nat.add_sub_cancel, openAfter_concat_of_le le_rfl, openAfter_of_le le_rfl]
      simp
    · rw [hturn.above kind n (by omega), h.covers kind n h1 (by omega), asksAbove_concat,
        openAfter_concat_of_le (by omega), openAfter_concat_of_le (by omega)]
      have hno : ¬ lines.length + 1 < n := by omega
      simp [hno]

lemma reads (lines : List Text) (h : lines.length + 1 < UInt32.size) :
    Reads lines (empty.readLines 1 lines).1 := by
  induction lines using List.reverseRecOn with
  | nil => exact reads_nil
  | append_singleton lines text ih =>
    rw [List.length_append, List.length_singleton] at h
    exact reads_concat (ih (by omega)) (by omega)

lemma Reads.covers_iff (h : Reads lines (empty.readLines 1 lines).1) (h1 : 1 ≤ n)
    (hsize : n < UInt32.size) :
    (empty.readLines 1 lines).1.Covers kind n ↔ kind = .lines ∧ AsksAbove lines n ∨
      kind ∈ openAfter lines (n - 1) ∧ kind ∈ openAfter lines n := by
  rcases Nat.lt_or_ge lines.length n with hlt | hle
  · rw [h.upto.covers_iff hlt, h.settles kind n hlt hsize, openAfter_of_le (by omega),
      openAfter_of_le hlt.le, and_self_iff]
  · exact h.covers kind n h1 hle

lemma suppresses_iff_covers {p : Problem} {number : UInt32} (h : p.line? = some number) :
    r.suppresses p ↔ ∃ kind, kind.accepts p ∧ r.Covers kind number.toNat := by
  simp only [suppresses, List.any_eq_true, Suppression.suppresses, h, Bool.and_eq_true,
    covers_iff_spans, Covers]
  constructor
  · rintro ⟨s, hs, ha, hspan⟩
    exact ⟨s.kind, ha, s, hs, rfl, hspan⟩
  · rintro ⟨kind, ha, s, hs, rfl, hspan⟩
    exact ⟨s, hs, ha, hspan⟩

lemma Consistent.suppresses_iff_open {p : Problem} (hr : r.Consistent) (h : p.line? = none) :
    r.suppresses p ↔ ∃ kind, kind ≠ .lines ∧ kind.accepts p ∧ kind ∈ r.openKinds := by
  simp only [suppresses, List.any_eq_true, Suppression.suppresses, h, Bool.and_eq_true, isOpen,
    decide_eq_true_eq, hr.mem_openKinds]
  constructor
  · rintro ⟨⟨kind, start, stop⟩, hs, ha, hk, rfl⟩
    exact ⟨kind, hk, ha, start, hs⟩
  · rintro ⟨kind, hk, ha, start, hs⟩
    exact ⟨_, hs, ha, hk, rfl⟩

/-- **Suppression is read line by line**: a problem in a line is suppressed just when a
directive above asks for it, or a kind that accepts it is open before and after the line; a
problem without position just when such a kind, with a value, is open in the end. -/
theorem suppresses_ofSource (source : Text) (hlines : source.lines.length < 2 ^ 32 - 1)
    (p : Problem) :
    (∀ n, p.line? = some n → 1 ≤ n.toNat → ((ofSource source).1.suppresses p ↔
      AsksAbove source.lines n.toNat ∨
        ∃ kind : Kind, kind.accepts p ∧ kind ∈ openAfter source.lines (n.toNat - 1) ∧
          kind ∈ openAfter source.lines n.toNat)) ∧
    (p.line? = none → ((ofSource source).1.suppresses p ↔
      ∃ kind : Kind, kind ≠ .lines ∧ kind.accepts p ∧
        kind ∈ openAfter source.lines source.lines.length)) := by
  have hsize : source.lines.length + 1 < UInt32.size := by
    rw [UInt32.size]
    omega
  have hreads := reads source.lines hsize
  constructor
  · intro n hp h1
    rw [suppresses_iff_covers hp, ofSource]
    simp only [hreads.covers_iff h1 n.toNat_lt]
    constructor
    · rintro ⟨kind, ha, ⟨-, hnext⟩ | hopen⟩
      · exact Or.inl hnext
      · exact Or.inr ⟨kind, ha, hopen⟩
    · rintro (hnext | ⟨kind, ha, hopen⟩)
      · exact ⟨.lines, rfl, Or.inl ⟨rfl, hnext⟩⟩
      · exact ⟨kind, ha, Or.inr hopen⟩
  · intro hp
    rw [openAfter_of_le le_rfl]
    exact hreads.upto.consistent.suppresses_iff_open hp

/-- A document that asks to ignore its second line. -/
def ignoring : Text := "% buddy ignore-next\nword".toList

def ignored : Problem where
  position := some ⟨2, 1⟩
  text := "word".toList
  checker := "Aspell".toList
  problemType := "spelling".toList
  file := "a.tex".toList
  severity := .warning
  length := 4
  category := none
  description := none
  context := ([], [])
  suggestions := []
  key := "en/spelling/word".toList

theorem suppresses_ofSource_ignoring : ignoring.lines.length < 2 ^ 32 - 1 ∧
    ignored.line? = some 2 ∧ (ofSource ignoring).1.suppresses ignored := by
  have hlines : ignoring.lines = ["% buddy ignore-next".toList, "word".toList] := by cbv
  have hasks : AsksNext "% buddy ignore-next".toList 1 :=
    ⟨⟨"ignore-next".toList, []⟩, [], by cbv, by cbv⟩
  have hshort : ignoring.lines.length < 2 ^ 32 - 1 := by simp [hlines]
  have habove : AsksAbove ignoring.lines (2 : UInt32).toNat := by
    rw [hlines]
    exact ⟨0, _, 1, rfl, hasks, by decide, by decide⟩
  exact ⟨hshort, rfl,
    ((suppresses_ofSource ignoring hshort ignored).1 2 rfl (by decide)).2 (Or.inl habove)⟩

end Record

end LatexReview.Suppression
