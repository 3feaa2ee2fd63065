import Mathlib
import LatexReview.Problem.Draft
import LatexReview.Proofs.Whitelist.Reload

/-!
What a key tells of its problem.

A key that is not brought along ends in the text of its problem, less the line breaks, and what
stands before the text depends on checker, type, category and language alone. So among problems
that agree in these, a key tells the text. Such a key holds a slash, and always fits a whitelist.
-/

namespace LatexReview

open Problem Whitelist

namespace Problem.Draft

variable {a b d : Draft}

/-! ### Parts of a key -/

/-- The language in front of a key, where it matters. -/
def languageMark (d : Draft) : Text :=
  match d.language.filter (· ≠ []), d.category with
  | some language, some category =>
    if category ∈ languageCategories then language ++ ['/'] else []
  | _, _ => []

/-- What stands before the text in a key that is not brought along. -/
def keyLead (d : Draft) : Text := d.languageMark ++ (d.checker ++ '/' :: d.problemType ++ ['/'])

lemma rawKey_eq (h : d.key = none) : d.rawKey = d.keyLead ++ d.text := by
  unfold rawKey keyLead languageMark
  rw [h]
  cases d.language with
  | none => simp
  | some language =>
    cases d.category with
    | none => simp
    | some category =>
      by_cases hne : language = []
      · simp [hne]
      · by_cases hmem : category ∈ languageCategories <;> simp [Option.filter, hne, hmem]

lemma key_build (h : d.key = none) :
    d.build.key = dropLineBreaks d.keyLead ++ dropLineBreaks d.text := by
  have hkey : d.build.key = dropLineBreaks d.rawKey := rfl
  rw [hkey, rawKey_eq h]
  exact List.filter_append ..

/-- Two drafts are of one checker, type, category and language. An empty language is none. -/
structure Alike (a b : Draft) : Prop where
  checker : a.checker = b.checker
  problemType : a.problemType = b.problemType
  category : a.category = b.category
  language : a.language.filter (· ≠ []) = b.language.filter (· ≠ [])

lemma Alike.keyLead_eq (h : a.Alike b) : a.keyLead = b.keyLead := by
  rw [keyLead, keyLead, languageMark, languageMark, h.checker, h.problemType, h.category,
    h.language]

/-! ### Keys on a whitelist -/

lemma not_isLineBreak_of_mem_key {c : Char} (h : c ∈ d.build.key) : isLineBreak c = false := by
  simpa using (List.mem_filter.1 h).2

lemma isValid_key (h : d.build.key.blank = false) : isValid d.build.key := by
  refine isValid_iff.2 ⟨h, fun hn => ?_, fun hr => ?_⟩
  · exact absurd (not_isLineBreak_of_mem_key hn) (by decide)
  · exact absurd (not_isLineBreak_of_mem_key hr) (by decide)

lemma slash_mem_key (h : d.key = none) : '/' ∈ d.build.key := by
  have hlead : '/' ∈ dropLineBreaks d.keyLead :=
    List.mem_filter.2 ⟨by simp [keyLead], by decide⟩
  rw [key_build h]
  exact List.mem_append_left _ hlead

lemma not_blank_key (h : d.key = none) : d.build.key.blank = false := by
  refine Bool.eq_false_iff.2 fun hblank => ?_
  exact absurd (List.all_eq_true.1 hblank '/' (slash_mem_key h)) (by decide)

end Problem.Draft

lemma Whitelist.State.add_ne_invalidKey (s : Whitelist.State) {key : Text} (h : isValid key)
    (other : Text) : (s.add key).1 ≠ .error (.invalidKey other) := by
  unfold add
  rw [if_neg (by simp [h])]
  split
  · exact nofun
  · split <;> exact nofun

/-- **Keys tell findings apart and can be whitelisted.** Problems without a key brought along, of
one checker, type, category and language, have one key, and are one mistake, just when their texts
are the same but for line breaks; and the key of each of them has no line break, is not blank, and
is no invalid key of any whitelist. -/
theorem Problem.Draft.key_tells_text :
    (∀ a b : Draft, a.key = none → b.key = none → a.Alike b →
      (a.build.key = b.build.key ↔ dropLineBreaks a.text = dropLineBreaks b.text) ∧
      (SameMistake a.build b.build ↔ dropLineBreaks a.text = dropLineBreaks b.text)) ∧
    ∀ d : Draft, d.key = none →
      '\n' ∉ d.build.key ∧ '\r' ∉ d.build.key ∧ d.build.key.blank = false ∧
        ∀ (s : Whitelist.State) (other : Text),
          (s.add d.build.key).1 ≠ .error (.invalidKey other) := by
  constructor
  · intro a b ha hb h
    have hkeys : a.build.key = b.build.key ↔ dropLineBreaks a.text = dropLineBreaks b.text := by
      rw [key_build ha, key_build hb, h.keyLead_eq, List.append_cancel_left_eq]
    have hne : a.build.key ≠ [] := List.ne_nil_of_mem (slash_mem_key ha)
    exact ⟨hkeys, (and_iff_right hne).trans hkeys⟩
  · intro d hd
    have hvalid := isValid_key (not_blank_key hd)
    obtain ⟨hblank, hbreak, hreturn⟩ := isValid_iff.1 hvalid
    exact ⟨hbreak, hreturn, hblank, fun s other => s.add_ne_invalidKey hvalid other⟩

/-- A word that a line break divides, in a document with an empty language. -/
def dividedWord : Draft where
  checker := "Speller".toList
  text := "Wor\r\nd".toList
  file := "a.tex".toList
  position := some ⟨2, 7⟩
  problemType := "typo".toList
  category := some "spelling".toList
  language := some []

/-- The same word in one line, elsewhere. -/
def wholeWord : Draft where
  checker := "Speller".toList
  text := "Word".toList
  file := "b.tex".toList
  problemType := "typo".toList
  category := some "spelling".toList

/-- Nothing but line breaks, in no language and from nobody. -/
def emptyDraft : Draft := { checker := [], text := "\n\r".toList }

theorem Problem.Draft.key_tells_text_divided :
    dividedWord.key = none ∧ wholeWord.key = none ∧ dividedWord.Alike wholeWord ∧
      dividedWord.build.key = wholeWord.build.key ∧
      SameMistake dividedWord.build wholeWord.build ∧
      ¬ SameMistake dividedWord.build { wholeWord with text := "Wor d".toList }.build ∧
      emptyDraft.key = none ∧ emptyDraft.build.key = "//".toList ∧
      ∀ s : Whitelist.State, (s.add emptyDraft.build.key).1 ≠ .error (.invalidKey "//".toList) := by
  have h : dividedWord.Alike wholeWord := ⟨rfl, rfl, rfl, rfl⟩
  have hspaced : dividedWord.Alike { wholeWord with text := "Wor d".toList } := ⟨rfl, rfl, rfl, rfl⟩
  obtain ⟨hkeys, hmistake⟩ := key_tells_text.1 dividedWord wholeWord rfl rfl h
  refine ⟨rfl, rfl, h, hkeys.2 (by decide), hmistake.2 (by decide), ?_, rfl, by decide, fun s => ?_⟩
  · rw [(key_tells_text.1 dividedWord _ rfl rfl hspaced).2]
    decide
  · exact (key_tells_text.2 emptyDraft rfl).2.2.2 s _

end LatexReview
