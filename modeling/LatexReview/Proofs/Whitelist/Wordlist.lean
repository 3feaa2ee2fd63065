import Mathlib
import LatexReview.Proofs.Checker.Aspell
import LatexReview.Proofs.Whitelist.Growth

/-!
Word lists on a whitelist.

A word list puts the keys of its words on a whitelist, as the speller makes them. So it
silences what the speller says of its words, and nothing else.
-/

namespace LatexReview.Whitelist

variable {s s' : State} {key word language wordlist : Text} {row : List Text} {n : ℕ}

/-! ### Rows that are added -/

lemma State.mem_keys_add {isNew : Bool} {events : List Event}
    (h : s.add key = (.ok isNew, s', events)) (k : Text) :
    k ∈ s'.whitelist.keys ↔ k ∈ s.whitelist.keys ∨ k = key := by
  rcases s.add_cases key with ⟨e, hadd⟩ | ⟨hold, hadd⟩ | ⟨hv, hnew, files', happend⟩
  · simp [hadd] at h
  · obtain ⟨-, rfl, -⟩ : false = isNew ∧ s = s' ∧ [] = events := by simpa [hadd] using h
    exact ⟨Or.inl, fun hk => hk.elim id fun hk => hk ▸ hold⟩
  · rw [add_new hv hnew happend] at h
    obtain ⟨-, rfl, -⟩ := by simpa using h
    simp

lemma State.mem_keys_addAll (h : (s.addAll row).1 = .ok n) :
    key ∈ (s.addAll row).2.1.whitelist.keys ↔ key ∈ s.whitelist.keys ∨ key ∈ row := by
  induction row generalizing s n with
  | nil => simp [addAll]
  | cons first rest ih =>
    rcases hadd : s.add first with ⟨e | isNew, s', events⟩
    · simp [addAll, hadd] at h
    · obtain ⟨hresult, hstate⟩ := addAll_cons hadd rest
      rw [hresult] at h
      cases hrest : (s'.addAll rest).1 with
      | error e => simp [hrest, Except.map] at h
      | ok k => rw [hstate, ih hrest, mem_keys_add hadd, List.mem_cons, or_assoc]

/-! ### Words and their keys -/

lemma wordKey_injective (language : Text) : Function.Injective (wordKey language) :=
  fun _ _ h => List.append_cancel_left h

lemma wordKey_mem_wordlistKeys (hne : word ≠ []) :
    wordKey language word ∈ wordlistKeys wordlist language ↔
      word ∈ wordlist.lines.map Text.trim := by
  rw [wordlistKeys, List.mem_map_of_injective (wordKey_injective language), List.mem_filter]
  simp [hne]

/-- **A word list silences exactly its words.** Of what is read from an answer of the speller,
a whitelist that the list was added to keeps the problems whose word is no line of the list,
and whose key was not on the whitelist before. -/
theorem filter_addAll_wordlistKeys {c : Config} {d : Document} {answer : Text}
    {ps : List Problem} (hbreak : ∀ ch ∈ language, Problem.Draft.isLineBreak ch = false)
    (hadd : (s.addAll (wordlistKeys wordlist language)).1 = .ok n)
    (hlanguage : c.language? = some language) (hread : Aspell.read c d answer = .found ps) :
    (s.addAll (wordlistKeys wordlist language)).2.1.whitelist.filter ps =
      ps.filter fun p => p.text ∉ wordlist.lines.map Text.trim ∧ p.key ∉ s.whitelist.keys := by
  refine List.filter_congr fun p hp => ?_
  obtain ⟨hne, hkey⟩ := Aspell.key_of_mem_read hlanguage hbreak hread hp
  have hlisted : p.key ∈ (s.addAll (wordlistKeys wordlist language)).2.1.whitelist.keys ↔
      p.key ∈ s.whitelist.keys ∨ p.text ∈ wordlist.lines.map Text.trim := by
    rw [State.mem_keys_addAll hadd, hkey, wordKey_mem_wordlistKeys hne]
  rw [contains, ← decide_not]
  refine decide_eq_decide.2 ?_
  rw [hlisted]
  tauto

/-- A list with a blank line, spaces around a word, and a line of two words. -/
def germanWords : Text := "Dongbei\n\n texbuddy \r\nzwei Worte\n".toList

def germanConfig : Config := { language := "de".toList }

/-- A whitelist that holds a word of the language, and a listed one of another language. -/
def germanKeys : State where
  whitelist := ofContent "keys".toList "de/spelling/Wort\nen/spelling/Dongbei".toList
  files := FileTree.empty.put ["keys".toList]
    (.file (Text.toBytes "de/spelling/Wort\nen/spelling/Dongbei".toList))

def germanPage : Document := .ofSource "a.tex".toList "Dongbei zwei\ntexbuddi Wort texbuddy".toList

def germanAnswer : Text :=
  "@ aspell\n# Dongbei 1\n# zwei 9\n\n& texbuddi 1 1: texbuddy\n# Wort 10\n# texbuddy 15\n".toList

theorem filter_addAll_wordlistKeys_german :
    (∀ ch ∈ "de".toList, Problem.Draft.isLineBreak ch = false) ∧
      (germanKeys.addAll (wordlistKeys germanWords "de".toList)).1 = .ok 3 ∧
      germanConfig.language? = some "de".toList ∧
      ∃ ps, Aspell.read germanConfig germanPage germanAnswer = .found ps ∧
        ps.map (·.text) = ["Dongbei".toList, "zwei".toList, "texbuddi".toList, "Wort".toList,
          "texbuddy".toList] ∧
        ((germanKeys.addAll (wordlistKeys germanWords "de".toList)).2.1.whitelist.filter ps).map
          (·.text) = ["zwei".toList, "texbuddi".toList] := by
  have hbreak : ∀ ch ∈ "de".toList, Problem.Draft.isLineBreak ch = false := by
    simp [Problem.Draft.isLineBreak]
  have hadd : (germanKeys.addAll (wordlistKeys germanWords "de".toList)).1 = .ok 3 := by cbv
  have hlanguage : germanConfig.language? = some "de".toList := by decide
  obtain ⟨ps, hread, htexts, hkept⟩ :
      ∃ ps, Aspell.read germanConfig germanPage germanAnswer = .found ps ∧
        ps.map (·.text) = ["Dongbei".toList, "zwei".toList, "texbuddi".toList, "Wort".toList,
          "texbuddy".toList] ∧
        (ps.filter fun p => p.text ∉ germanWords.lines.map Text.trim ∧
          p.key ∉ germanKeys.whitelist.keys).map (·.text) = ["zwei".toList, "texbuddi".toList] :=
    ⟨(Aspell.read germanConfig germanPage germanAnswer).problems, by cbv, by cbv, by cbv⟩
  refine ⟨hbreak, hadd, hlanguage, ps, hread, htexts, ?_⟩
  rw [filter_addAll_wordlistKeys hbreak hadd hlanguage hread, hkept]

end LatexReview.Whitelist
