import Mathlib
import LatexReview.Checker.Aspell
import LatexReview.Whitelist
import LatexReview.Proofs.Text.Fields

/-!
What `aspell` answers, and what is made of it.

Each problem that is read from an answer comes from a word in one of its lines.
-/

namespace LatexReview.Aspell

variable {c : Config} {d : Document} {m : Miss} {p : Problem}

/-! ### Problems and their lines -/

lemma exists_miss_of_mem {line : ℕ} {replies : List Text}
    (hp : p ∈ (readFrom c d line replies).problems) :
    ∃ line m, (∃ reply, Reply.ofLine reply = .ok (.miss m)) ∧ p = (draft c d line m).build := by
  induction replies generalizing line with
  | nil => simp [readFrom, Outcome.problems] at hp
  | cons reply rest ih =>
    unfold readFrom at hp
    split at hp
    · simp [Outcome.problems] at hp
    · split at hp
      · exact ih hp
      · simp [Outcome.problems] at hp
    · exact ih hp
    · rename_i m hreply
      split at hp
      · simp [Outcome.problems] at hp
      split at hp
      · rename_i ps hps
        rcases List.mem_cons.1 hp with rfl | hp
        · exact ⟨line, m, ⟨reply, hreply⟩, rfl⟩
        · exact ih (by rw [hps]; exact hp)
      · exact ih hp

lemma Reply.ofLine_eq_miss_iff {line : Text} : Reply.ofLine line = .ok (.miss m) ↔
    line.head? = some '&' ∧ missWithSuggestions? line = some m ∨
      line.head? = some '#' ∧ missAlone? line = some m := by
  unfold Reply.ofLine
  dsimp only
  split
  case h_6 rest =>
    cases missWithSuggestions? ('&' :: rest) <;> simp
  case h_7 rest =>
    cases missAlone? ('#' :: rest) <;> simp
  case h_8 hamp hhash =>
    refine iff_of_false (by simp) ?_
    cases line with
    | nil => simp
    | cons ch rest => simp_all
  all_goals simp

lemma Reply.word_of_ofLine {line : Text} (h : Reply.ofLine line = .ok (.miss m)) :
    m.word ≠ [] ∧ ∀ ch ∈ m.word, Text.isSpace ch = false := by
  rcases Reply.ofLine_eq_miss_iff.1 h with ⟨-, hmiss⟩ | ⟨-, hmiss⟩
  · obtain ⟨⟨head, suggestions⟩, -, hmiss⟩ := Option.bind_eq_some_iff.1 hmiss
    dsimp only at hmiss
    split at hmiss
    · rename_i word _ _ hwords
      obtain ⟨offset, -, hm⟩ := Option.bind_eq_some_iff.1 hmiss
      obtain rfl := Option.some.inj hm
      exact Text.mem_words (s := head) (by simp [hwords])
    · simp at hmiss
  · unfold missAlone? at hmiss
    split at hmiss
    · rename_i word _ hwords
      obtain ⟨offset, -, hm⟩ := Option.bind_eq_some_iff.1 hmiss
      obtain rfl := Option.some.inj hm
      exact Text.mem_words (s := line) (by simp [hwords])
    · simp at hmiss

/-! ### Keys -/

lemma isLineBreak_of_not_isSpace {ch : Char} (h : Text.isSpace ch = false) :
    Problem.Draft.isLineBreak ch = false := by
  have hspace : Problem.Draft.isLineBreak ch = true → Text.isSpace ch = true := by
    intro hbreak
    rcases (by simpa [Problem.Draft.isLineBreak, ← or_iff_not_imp_left] using hbreak :
      ch = '\n' ∨ ch = '\r') with rfl | rfl <;> decide
  exact Bool.eq_false_iff.2 fun hbreak => by simp [hspace hbreak] at h

lemma isLineBreak_wordKey {language word : Text}
    (hbreak : ∀ ch ∈ language, Problem.Draft.isLineBreak ch = false)
    (hword : ∀ ch ∈ word, Text.isSpace ch = false) :
    ∀ ch ∈ Whitelist.wordKey language word, Problem.Draft.isLineBreak ch = false := by
  have hslash : ∀ ch ∈ "/spelling/".toList, Problem.Draft.isLineBreak ch = false := by
    simp [Problem.Draft.isLineBreak]
  intro ch hch
  simp only [Whitelist.wordKey, List.mem_append] at hch
  rcases hch with (hch | hch) | hch
  · exact hbreak ch hch
  · exact hslash ch hch
  · exact isLineBreak_of_not_isSpace (hword ch hch)

lemma language_ne_nil {language : Text} (h : c.language? = some language) : language ≠ [] := by
  unfold Config.language? at h
  split at h
  · simp at h
  · rename_i hne
    exact Option.some.inj h ▸ hne

lemma key_draft {language : Text} (hlanguage : c.language? = some language)
    (hbreak : ∀ ch ∈ language, Problem.Draft.isLineBreak ch = false)
    (hword : ∀ ch ∈ m.word, Text.isSpace ch = false) (line : ℕ) :
    (draft c d line m).build.key = Whitelist.wordKey language m.word := by
  have hraw : (draft c d line m).rawKey = Whitelist.wordKey language m.word := by
    simp [Problem.Draft.rawKey, draft, hlanguage, language_ne_nil hlanguage,
      Problem.Draft.languageCategories, Whitelist.wordKey]
  calc
    (draft c d line m).build.key = Problem.Draft.dropLineBreaks (draft c d line m).rawKey := rfl
    _ = Problem.Draft.dropLineBreaks (Whitelist.wordKey language m.word) := by rw [hraw]
    _ = Whitelist.wordKey language m.word := List.filter_eq_self.2 fun ch hch => by
      simp [isLineBreak_wordKey hbreak hword ch hch]

lemma key_of_mem_read {language answer : Text} {ps : List Problem}
    (hlanguage : c.language? = some language)
    (hbreak : ∀ ch ∈ language, Problem.Draft.isLineBreak ch = false)
    (hread : read c d answer = .found ps) (hp : p ∈ ps) :
    p.text ≠ [] ∧ p.key = Whitelist.wordKey language p.text := by
  have hmem : p ∈ (readFrom c d 1 answer.lines).problems := by
    rw [← read, hread]
    exact hp
  obtain ⟨line, m, ⟨reply, hreply⟩, rfl⟩ := exists_miss_of_mem hmem
  obtain ⟨hne, hspace⟩ := Reply.word_of_ofLine hreply
  exact ⟨hne, key_draft hlanguage hbreak hspace line⟩

end LatexReview.Aspell
