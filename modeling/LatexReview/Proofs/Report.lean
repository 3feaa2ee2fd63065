import Mathlib
import LatexReview.Report
import LatexReview.Proofs.Store.Spelling

/-!
The result files of a run.

The names for one stem are told apart by their numbers, so among one name more than are taken
there is a free one, and the search for it ends before the numbers do. A document takes no name
that one before it has, and the names of the documents before it do not depend on it.
-/

namespace LatexReview.Report

variable {taken stems names : List Text} {stem name : Text} {directory path : Path} {n k : ℕ}

/-! ### Numbers -/

/-- What stands between the stem and the ending of a numbered name. -/
def numberMark (n : ℕ) : Text := if n ≤ 1 then [] else '-' :: Text.numeral n

lemma resultName_eq (stem : Text) (n : ℕ) :
    resultName stem n = stem ++ numberMark n ++ ".result.json".toList := by
  unfold resultName numberMark
  split
  · rw [List.append_nil]
  · rfl

lemma eq_of_numberMark_eq {m : ℕ} (hm : 1 ≤ m) (hn : 1 ≤ n) (h : numberMark m = numberMark n) :
    m = n := by
  unfold numberMark at h
  split at h <;> split at h
  · omega
  · exact absurd h.symm (List.cons_ne_nil _ _)
  · exact absurd h (List.cons_ne_nil _ _)
  · exact Text.numeral_injective (List.cons.inj h).2

lemma injOn_resultName (stem : Text) : Set.InjOn (resultName stem) {n | 1 ≤ n} := by
  intro m hm n hn h
  rw [resultName_eq, resultName_eq] at h
  exact eq_of_numberMark_eq hm hn (List.append_cancel_left (List.append_cancel_right h))

lemma exists_free (taken : List Text) (stem : Text) :
    ∃ n, 1 ≤ n ∧ n ≤ taken.length + 1 ∧ resultName stem n ∉ taken := by
  have hinj : Set.InjOn (resultName stem) (Finset.Icc 1 (taken.length + 1)) :=
    (injOn_resultName stem).mono fun n hn => (Finset.mem_Icc.1 hn).1
  have hcard : taken.toFinset.card <
      ((Finset.Icc 1 (taken.length + 1)).image (resultName stem)).card := by
    rw [Finset.card_image_of_injOn hinj, Nat.card_Icc]
    exact Nat.lt_succ_of_le taken.toFinset_card_le
  obtain ⟨name, hname, hfree⟩ := Finset.exists_mem_notMem_of_card_lt_card hcard
  obtain ⟨n, hn, rfl⟩ := Finset.mem_image.1 hname
  obtain ⟨hpos, hle⟩ := Finset.mem_Icc.1 hn
  exact ⟨n, hpos, hle, fun h => hfree (List.mem_toFinset.2 h)⟩

/-- A number is the first one from `n` on whose name is free. -/
def FirstFree (taken : List Text) (stem : Text) (n k : ℕ) : Prop :=
  IsLeast {m | n ≤ m ∧ resultName stem m ∉ taken} k

lemma exists_firstFree (taken : List Text) (stem : Text) :
    ∃ k, FirstFree taken stem 1 k ∧ k ≤ taken.length + 1 := by
  obtain ⟨n, hpos, hle, hfree⟩ := exists_free taken stem
  have hex : ∃ m, 1 ≤ m ∧ resultName stem m ∉ taken := ⟨n, hpos, hfree⟩
  exact ⟨Nat.find hex, ⟨Nat.find_spec hex, fun m hm => Nat.find_min' hex hm⟩,
    (Nat.find_min' hex ⟨hpos, hfree⟩).trans hle⟩

lemma FirstFree.lt_of_mem (h : FirstFree taken stem n k) (hused : resultName stem n ∈ taken) :
    n < k :=
  lt_of_le_of_ne h.1.1 fun heq => h.1.2 (heq ▸ hused)

lemma FirstFree.freeName? (h : FirstFree taken stem n k) (hlast : k ≤ lastNumber) :
    freeName? taken stem n = some (resultName stem k) := by
  fun_induction Report.freeName? taken stem n with
  | case1 n hfree =>
    have heq : k = n := (h.2 ⟨le_rfl, hfree⟩).antisymm h.1.1
    rw [heq]
  | case2 n hused hlt ih =>
    have hlater : n < k := h.lt_of_mem (not_not.1 hused)
    exact ih ⟨⟨hlater, h.1.2⟩, fun m hm => h.2 ⟨(Nat.le_succ n).trans hm.1, hm.2⟩⟩
  | case3 n hused hlt =>
    have hlater : n < k := h.lt_of_mem (not_not.1 hused)
    omega

/-! ### One name -/

/-- The name of a result: the plain one of its stem, or if that is taken, the one with the least
number from two on that is not. -/
inductive IsResultName (taken : List Text) (stem : Text) : Text → Prop where
  | plain (hfree : stem ++ ".result.json".toList ∉ taken) :
    IsResultName taken stem (stem ++ ".result.json".toList)
  | numbered (n : ℕ) (htaken : stem ++ ".result.json".toList ∈ taken)
      (hleast : IsLeast
        {m | 2 ≤ m ∧ stem ++ '-' :: Text.numeral m ++ ".result.json".toList ∉ taken} n) :
    IsResultName taken stem (stem ++ '-' :: Text.numeral n ++ ".result.json".toList)

lemma IsResultName.free (h : IsResultName taken stem name) : name ∉ taken := by
  cases h with
  | plain hfree => exact hfree
  | numbered n _ hleast => exact hleast.1.2

lemma IsResultName.not_mem {c : Char} (h : IsResultName taken stem name) (hstem : c ∉ stem)
    (hdigit : c.isDigit = false) (hend : c ∉ '-' :: ".result.json".toList) : c ∉ name := by
  obtain ⟨hdash, hend⟩ := not_or.1 (mt List.mem_cons.2 hend)
  cases h with
  | plain => simp only [List.mem_append, hstem, hend, or_false, not_false_eq_true]
  | numbered n =>
    simp only [List.mem_append, List.mem_cons, hstem, hdash, Text.not_mem_numeral hdigit, hend,
      or_false, not_false_eq_true]

lemma IsResultName.isIdle_eq (h : IsResultName taken stem name) : Path.isIdle name = false := by
  have hend : ".result.json".toList <:+ name := by
    cases h <;> exact List.suffix_append _ _
  have hlength : 12 ≤ name.length := hend.length_le
  have hne : name ≠ [] := List.ne_nil_of_length_pos (by omega)
  have hdot : name ≠ ['.'] := by
    rintro rfl
    exact absurd hlength (by decide)
  simp [Path.isIdle, hne, hdot]

lemma resultName_of_two_le (stem : Text) (h : 2 ≤ n) :
    resultName stem n = stem ++ '-' :: Text.numeral n ++ ".result.json".toList :=
  if_neg (by omega)

lemma FirstFree.isResultName (h : FirstFree taken stem 1 k) :
    IsResultName taken stem (resultName stem k) := by
  obtain ⟨⟨hpos, hfree⟩, hleast⟩ := h
  rcases hpos.eq_or_lt with rfl | htwo
  · exact .plain hfree
  · have htaken : resultName stem 1 ∈ taken := by
      by_contra hfirst
      have := hleast ⟨le_rfl, hfirst⟩
      omega
    rw [resultName_of_two_le stem htwo] at hfree ⊢
    refine .numbered k htaken ⟨⟨htwo, hfree⟩, fun m ⟨hm, hmfree⟩ => hleast ⟨by omega, ?_⟩⟩
    rwa [resultName_of_two_le stem hm]

lemma exists_freeName? (stem : Text) (h : taken.length < lastNumber) :
    ∃ name, freeName? taken stem 1 = some name ∧ IsResultName taken stem name := by
  obtain ⟨k, hk, hle⟩ := exists_firstFree taken stem
  exact ⟨resultName stem k, hk.freeName? (hle.trans h), hk.isResultName⟩

/-! ### Names in a row -/

/-- Each name is that of its stem, given the names before it. -/
def InTurn (taken stems names : List Text) : Prop :=
  ∀ i stem name, stems[i]? = some stem → names[i]? = some name →
    IsResultName (taken ++ names.take i) stem name

lemma InTurn.cons (h : IsResultName taken stem name)
    (hrest : InTurn (taken ++ [name]) stems names) :
    InTurn taken (stem :: stems) (name :: names) := by
  rintro (_ | i) stem' name' hstem hname
  · obtain rfl := Option.some.inj hstem
    obtain rfl := Option.some.inj hname
    simpa using h
  · simpa using hrest i stem' name' hstem hname

lemma exists_resultNames? (stems : List Text) (h : taken.length + stems.length ≤ lastNumber) :
    ∃ names, resultNames? taken stems = some names ∧ names.length = stems.length ∧
      InTurn taken stems names := by
  induction stems generalizing taken with
  | nil => exact ⟨[], rfl, rfl, fun i stem name hstem => by simp at hstem⟩
  | cons stem stems ih =>
    rw [List.length_cons] at h
    have hfew : taken.length < lastNumber := by omega
    obtain ⟨name, hfree, hname⟩ := exists_freeName? stem hfew
    have hroom : (taken ++ [name]).length + stems.length ≤ lastNumber := by simp; omega
    obtain ⟨names, hnames, hlength, hturn⟩ := ih hroom
    refine ⟨name :: names, ?_, congrArg (· + 1) hlength, .cons hname hturn⟩
    simp [resultNames?, hfree, hnames]

lemma resultNames?_take (h : resultNames? taken stems = some names) (k : ℕ) :
    resultNames? taken (stems.take k) = some (names.take k) := by
  induction stems generalizing taken names k with
  | nil =>
    obtain rfl := Option.some.inj h
    simp [resultNames?]
  | cons stem stems ih =>
    simp only [resultNames?, Option.bind_eq_bind, Option.bind_eq_some_iff] at h
    obtain ⟨name, hfree, others, hothers, hnames⟩ := h
    obtain rfl := Option.some.inj hnames
    cases k with
    | zero => rfl
    | succ k => simp [resultNames?, hfree, ih hothers k]

lemma InTurn.nodup (h : InTurn taken stems names) (hlength : names.length = stems.length) :
    names.Nodup := by
  refine List.pairwise_iff_getElem.2 fun i j hi hj hlt heq => ?_
  have hstem : stems[j]? = some stems[j] := List.getElem?_eq_getElem (hlength ▸ hj)
  have hfree := (h j _ _ hstem (List.getElem?_eq_getElem hj)).free
  refine hfree (List.mem_append_right taken (List.mem_take_iff_getElem.2 ⟨i, by omega, heq⟩))

/-! ### Paths -/

lemma separator_not_mem_stem (path : Path) : Path.separator ∉ Report.stem path := by
  unfold Report.stem Path.stem?
  cases hlast : path.lastName? with
  | none => decide
  | some last =>
    have hmem : last.1 ∈ path.nameParts := by
      rw [← Path.map_fst_names]
      obtain ⟨hlast, -⟩ := Option.filter_eq_some_iff.1 hlast
      exact List.mem_map_of_mem (List.mem_of_getLast? hlast)
    have hname : Path.separator ∉ last.1 :=
      Text.not_mem_of_mem_splitOn (List.mem_of_mem_filter hmem)
    have hsubset : (Path.splitExtension last.1).1 ⊆ last.1 := by
      unfold Path.splitExtension
      dsimp only
      split
      · exact List.take_subset _ _
      · exact List.Subset.refl _
    exact fun h => hname (hsubset h)

lemma components_join_name (hname : Path.separator ∉ name) (hidle : Path.isIdle name = false)
    (directory : Path) :
    (Path.join directory name).components = directory.components ++ [.name name] := by
  have hsplit : name.splitOn Path.separator = [name] := List.splitOn_eq_singleton hname
  have hparts : Path.nameParts name = [name] := by simp [Path.nameParts, hsplit, hidle]
  have habsolute : Path.isAbsolute name = false := by
    simpa [Path.isAbsolute] using fun h => hname (List.mem_of_head? h)
  rcases eq_or_ne directory [] with rfl | hdirectory
  · have hdot : name ≠ ['.'] := by
      rintro rfl
      exact absurd hidle (by decide)
    have hlead : Path.lead name = [] := by simp [Path.lead, habsolute, hsplit, hdot]
    have hjoin : Path.join [] name = name := by simp [Path.join, habsolute]
    rw [hjoin, Path.components_eq, hlead, hparts]
    rfl
  · rw [Path.components_join hdirectory habsolute, hparts]
    rfl

lemma InTurn.pairwise_join {documents : List Path}
    (h : InTurn taken (documents.map Report.stem) names) (hlength : names.length = documents.length)
    (directory : Path) :
    (names.map (Path.join directory)).Pairwise fun p q => ¬ p.same q := by
  have hlengths : names.length = (documents.map Report.stem).length := by simpa using hlength
  have hcomponents : ∀ name ∈ names,
      (Path.join directory name).components = directory.components ++ [.name name] := by
    intro name hname
    obtain ⟨i, hi, rfl⟩ := List.mem_iff_getElem.1 hname
    have hi' : i < documents.length := hlength ▸ hi
    have hstem : (documents.map Report.stem)[i]? = some (Report.stem documents[i]) := by simp [hi']
    have hresult := h i _ _ hstem (List.getElem?_eq_getElem hi)
    exact components_join_name (hresult.not_mem (separator_not_mem_stem _) (by decide) (by decide))
      hresult.isIdle_eq directory
  rw [List.pairwise_map]
  refine (h.nodup hlengths).imp_of_mem fun {p q} hp hq hne hsame => hne ?_
  have heq : (Path.join directory p).components = (Path.join directory q).components := by
    simpa [Path.same] using hsame
  rw [hcomponents p hp, hcomponents q hq] at heq
  simpa using List.append_cancel_left heq

/-- **Each document has a result file of its own.** With fewer documents than there are numbers,
every document gets a name by its stem and the names before it, no two of the paths are the same,
and documents that come later change nothing. -/
theorem resultPaths_apart (directory : Path) {documents : List Path}
    (hcount : documents.length < 2 ^ 31 - 2) :
    ∃ names : List Text,
      resultPaths? directory documents = some (names.map (Path.join directory)) ∧
      names.length = documents.length ∧
      (∀ i document name, documents[i]? = some document → names[i]? = some name →
        IsResultName (names.take i) (Report.stem document) name) ∧
      ((names.map (Path.join directory)).Pairwise fun p q => ¬ p.same q) ∧
      ∀ k, resultPaths? directory (documents.take k) =
        some ((names.map (Path.join directory)).take k) := by
  have hroom : ([] : List Text).length + (documents.map Report.stem).length ≤ lastNumber := by
    simpa [lastNumber] using hcount.le
  obtain ⟨names, hnames, hlength, hturn⟩ := exists_resultNames? _ hroom
  rw [List.length_map] at hlength
  refine ⟨names, by rw [resultPaths?, hnames]; rfl, hlength, ?_, hturn.pairwise_join hlength _, ?_⟩
  · intro i document name hdocument hname
    simpa using hturn i (Report.stem document) name (by simp [hdocument]) hname
  · intro k
    rw [resultPaths?, List.map_take, resultNames?_take hnames k, Option.map_some, List.map_take]

/-- Three documents of one stem, and one whose stem is a numbered name of theirs. -/
def sameStems : List Path :=
  ["a/main.tex".toList, "b/main.tex".toList, "main-2.tex".toList, "c/main.tex".toList]

theorem resultPaths_apart_sameStems :
    sameStems.length < 2 ^ 31 - 2 ∧
      ∃ names : List Text,
        resultPaths? "out".toList sameStems = some (names.map (Path.join "out".toList)) ∧
        names.length = sameStems.length ∧
        (∀ i document name, sameStems[i]? = some document → names[i]? = some name →
          IsResultName (names.take i) (Report.stem document) name) ∧
        ((names.map (Path.join "out".toList)).Pairwise fun p q => ¬ p.same q) ∧
        (∀ k, resultPaths? "out".toList (sameStems.take k) =
          some ((names.map (Path.join "out".toList)).take k)) ∧
        names.map (Path.join "out".toList) =
          ["out/main.result.json".toList, "out/main-2.result.json".toList,
            "out/main-2-2.result.json".toList, "out/main-3.result.json".toList] := by
  have hcount : sameStems.length < 2 ^ 31 - 2 := by decide
  obtain ⟨names, hpaths, hlength, hturn, hapart, htake⟩ := resultPaths_apart "out".toList hcount
  have hvalue : resultPaths? "out".toList sameStems =
      some ["out/main.result.json".toList, "out/main-2.result.json".toList,
        "out/main-2-2.result.json".toList, "out/main-3.result.json".toList] := by cbv
  exact ⟨hcount, names, hpaths, hlength, hturn, hapart, htake,
    Option.some.inj (hpaths.symm.trans hvalue)⟩

end LatexReview.Report
