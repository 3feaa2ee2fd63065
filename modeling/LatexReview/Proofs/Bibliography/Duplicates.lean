import Mathlib
import LatexReview.Proofs.Checker.Stamp
import LatexReview.Proofs.Store.Append

/-!
What is live of the duplicates in a bibliography.

A reported pair has no position, and its uid does not hold its text, only the length of it. So
of all pairs with texts of one length the last one alone is live.
-/

namespace LatexReview.Bibliography

open Problem

variable {a : Aggregate} {c : Config} {env : Environment} {d : Document} {w : Whitelist}
  {path : Path} {s : Text} {pair other : Entry × Entry} {p : Problem}

/-- The problem that a pair is reported as. -/
def pairProblem (path : Path) (pair : Entry × Entry) : Problem :=
  (draft path pair.1 pair.2).build

/-- The number of characters in the text of a reported pair. -/
def textLength (pair : Entry × Entry) : ℕ := pair.1.id.length + 5 + pair.2.id.length

lemma problems_eq (path : Path) (s : Text) :
    problems path s = (duplicates (entries s)).map (pairProblem path) := rfl

@[simp] lemma length_pairProblem : (pairProblem path pair).length = textLength pair := by
  have htext : (pairProblem path pair).text = pair.1.id ++ " <=> ".toList ++ pair.2.id := rfl
  have hlength : (pairProblem path pair).length = (pairProblem path pair).text.length := rfl
  rw [hlength, htext, List.length_append, List.length_append]
  rfl

lemma position_pairProblem : (pairProblem path pair).position = none := by
  simp [pairProblem, draft, Draft.build]

lemma uid_pairProblem_eq_iff :
    (pairProblem path pair).uid = (pairProblem path other).uid ↔
      textLength pair = textLength other := by
  have huid := uid_eq_iff_of_alike (p := pairProblem path pair) (q := pairProblem path other)
    rfl rfl rfl rfl
  rw [huid, position_pairProblem, position_pairProblem, length_pairProblem, length_pairProblem]
  exact and_iff_right rfl

/-! ### The last pair of each length -/

/-- A pair after which none has a text of the same length. -/
def LastOfLength (pairs : List (Entry × Entry)) (pair : Entry × Entry) : Prop :=
  ∃ before after, pairs = before ++ pair :: after ∧
    ∀ other ∈ after, textLength other ≠ textLength pair

lemma LastOfLength.mem {pairs : List (Entry × Entry)} (h : LastOfLength pairs pair) :
    pair ∈ pairs := by
  obtain ⟨before, after, rfl, -⟩ := h
  simp

lemma latest?_pairs {pairs : List (Entry × Entry)} :
    latest? (pairs.map (pairProblem path)) p.uid = some p ↔
      ∃ pair, LastOfLength pairs pair ∧ p = pairProblem path pair := by
  rw [latest?_eq_some_iff, and_iff_right rfl]
  constructor
  · rintro ⟨before, after, hsplit, hafter⟩
    obtain ⟨first, rest, rfl, -, hrest⟩ := List.map_eq_append_iff.1 hsplit
    obtain ⟨pair, last, rfl, rfl, rfl⟩ := List.map_eq_cons_iff.1 hrest
    refine ⟨pair, ⟨first, last, rfl, fun other ho hlength => ?_⟩, rfl⟩
    exact hafter _ (List.mem_map_of_mem ho) (uid_pairProblem_eq_iff.2 hlength)
  · rintro ⟨pair, ⟨before, after, rfl, hafter⟩, rfl⟩
    refine ⟨before.map (pairProblem path), after.map (pairProblem path), by simp, ?_⟩
    intro q hq huid
    obtain ⟨other, ho, rfl⟩ := List.mem_map.1 hq
    exact hafter other ho (uid_pairProblem_eq_iff.1 huid)

lemma exists_lastOfLength {pairs : List (Entry × Entry)} (h : pair ∈ pairs) :
    ∃ last, LastOfLength pairs last ∧ textLength last = textLength pair := by
  -- Its uid is there, so some problem is the last under it.
  have hmem : pairProblem [] pair ∈ pairs.map (pairProblem []) := List.mem_map_of_mem h
  cases hlatest : latest? (pairs.map (pairProblem [])) (pairProblem [] pair).uid with
  | none => exact absurd rfl (latest?_eq_none_iff.1 hlatest _ hmem)
  | some p =>
    have huid := uid_of_latest? hlatest
    rw [← huid] at hlatest
    obtain ⟨last, hlast, rfl⟩ := latest?_pairs.1 hlatest
    exact ⟨last, hlast, uid_pairProblem_eq_iff.1 huid⟩

/-! ### Live problems -/

lemma findings_eq (hpath : bibliographyPath? d = some path)
    (hread : env.files.readText path = .ok s) :
    checker.findings c env d = (duplicates (entries s)).map (pairProblem d.path) := by
  simp only [Checker.findings, checker, outcome, hpath, hread, Outcome.problems]
  rfl

lemma mem_live_iff (hpath : bibliographyPath? d = some path)
    (hread : env.files.readText path = .ok s) (ha : a.Hosts checker c env d)
    (hkept : ∀ pair ∈ duplicates (entries s),
      (Suppression.Record.ofSource d.source).1.suppresses (pairProblem d.path pair) = false ∧
        (pairProblem d.path pair).key ∉ w.keys) :
    p ∈ a.liveOf checker c env d w ↔
      ∃ pair, LastOfLength (duplicates (entries s)) pair ∧ p = pairProblem d.path pair := by
  have hfindings : checker.findings c env d = _ := findings_eq hpath hread
  rw [ha.mem_liveOf_iff_of_kept, hfindings, latest?_pairs]
  rw [hfindings, List.forall_mem_map]
  exact hkept

/-- **Of the reported pairs of one length the last one is live.** If no reported pair is
suppressed or on the whitelist, there are as many live problems of the checker as there are
lengths of their texts. -/
theorem check_keeps_last (hpath : bibliographyPath? d = some path)
    (hread : env.files.readText path = .ok s) (ha : a.Hosts checker c env d)
    (hkept : ∀ pair ∈ duplicates (entries s),
      (Suppression.Record.ofSource d.source).1.suppresses (pairProblem d.path pair) = false ∧
        (pairProblem d.path pair).key ∉ w.keys) :
    (∀ p, p ∈ a.liveOf checker c env d w ↔
      ∃ pair, LastOfLength (duplicates (entries s)) pair ∧ p = pairProblem d.path pair) ∧
    (a.liveOf checker c env d w).length =
      ((duplicates (entries s)).map textLength).toFinset.card := by
  have hlive : ∀ p, p ∈ a.liveOf checker c env d w ↔
      ∃ pair, LastOfLength (duplicates (entries s)) pair ∧ p = pairProblem d.path pair :=
    fun _ => mem_live_iff hpath hread ha hkept
  refine ⟨hlive, ?_⟩
  -- Live problems of one length have one uid, and so are one.
  have hnodup : ((a.liveOf checker c env d w).map (·.length)).Nodup := by
    have huids := a.nodup_uids_liveOf checker c env d w
    refine (List.Nodup.of_map _ huids).map_on fun p hp q hq hlength => ?_
    refine List.inj_on_of_nodup_map huids hp hq ?_
    obtain ⟨pair, -, rfl⟩ := (hlive p).1 hp
    obtain ⟨other, -, rfl⟩ := (hlive q).1 hq
    exact uid_pairProblem_eq_iff.2 (by simpa using hlength)
  have hlengths : ((a.liveOf checker c env d w).map (·.length)).toFinset =
      ((duplicates (entries s)).map textLength).toFinset := by
    ext n
    simp only [List.mem_toFinset, List.mem_map, hlive]
    constructor
    · rintro ⟨p, ⟨pair, hpair, rfl⟩, rfl⟩
      exact ⟨pair, hpair.mem, length_pairProblem.symm⟩
    · rintro ⟨pair, hpair, rfl⟩
      obtain ⟨last, hlast, hlength⟩ := exists_lastOfLength hpair
      exact ⟨_, ⟨last, hlast, rfl⟩, length_pairProblem.trans hlength⟩
  calc
    (a.liveOf checker c env d w).length =
        ((a.liveOf checker c env d w).map (·.length)).length := (List.length_map _).symm
    _ = ((a.liveOf checker c env d w).map (·.length)).toFinset.card :=
      (List.toFinset_card_of_nodup hnodup).symm
    _ = ((duplicates (entries s)).map textLength).toFinset.card := by rw [hlengths]

/-! ### Three entries of one kind -/

def threefold : Text := "@a{x}@a{y}@a{z}".toList

def threefoldFiles : FileTree :=
  FileTree.empty.put ["refs.bib".toList] (.file threefold.toBytes)

def citingPage : Document := .ofSource "a.tex".toList "\\bibliography{refs}".toList

def noKeys : Whitelist := ⟨"keys".toList, [], false⟩

lemma source_citingPage : citingPage.source = "\\bibliography{refs}".toList := rfl

lemma path_citingPage : bibliographyPath? citingPage = some "refs.bib".toList := by
  have hpath : citingPage.path = "a.tex".toList := rfl
  simp only [bibliographyPath?, Document.isCommentedOut, source_citingPage, hpath]
  decide +kernel

lemma readText_refs (s : Text) :
    (FileTree.empty.put ["refs.bib".toList] (.file s.toBytes)).readText "refs.bib".toList =
      .ok s := by
  have hmissing : FileTree.empty.node? ["refs.bib".toList] ≠ some .directory := nofun
  have hplace : FileTree.empty.resolve "refs.bib".toList = .ok (.inside ["refs.bib".toList]) := by
    decide
  have hput : (FileTree.empty.put ["refs.bib".toList] (.file s.toBytes)).resolve
      "refs.bib".toList = .ok (.inside ["refs.bib".toList]) :=
    FileTree.resolve_put (List.cons_ne_nil _ _) hmissing hplace
  have hread : Text.ofBytes? s.toBytes = some s := Text.ofBytes?_eq_some.2 rfl
  rw [FileTree.readText_inside hput, FileTree.node?_put (by simp), if_pos rfl]
  simp only [hread]

lemma read_threefold : threefoldFiles.readText "refs.bib".toList = .ok threefold :=
  readText_refs threefold

lemma record_citingPage : (Suppression.Record.ofSource citingPage.source).1 = .empty := by
  rw [source_citingPage]
  cbv

lemma duplicates_threefold : duplicates (entries threefold) =
    [(⟨['a'], ['x'], []⟩, ⟨['a'], ['y'], []⟩), (⟨['a'], ['x'], []⟩, ⟨['a'], ['z'], []⟩),
      (⟨['a'], ['y'], []⟩, ⟨['a'], ['z'], []⟩)] := by
  have hentries : entries threefold =
      [⟨['a'], ['x'], []⟩, ⟨['a'], ['y'], []⟩, ⟨['a'], ['z'], []⟩] := by cbv
  rw [hentries]
  decide +kernel

theorem check_keeps_last_threefold :
    bibliographyPath? citingPage = some "refs.bib".toList ∧
      threefoldFiles.readText "refs.bib".toList = .ok threefold ∧
      Aggregate.library.Hosts checker {} ⟨threefoldFiles, []⟩ citingPage ∧
      (∀ pair ∈ duplicates (entries threefold),
        (Suppression.Record.ofSource citingPage.source).1.suppresses
            (pairProblem citingPage.path pair) = false ∧
          (pairProblem citingPage.path pair).key ∉ noKeys.keys) ∧
      pairProblem citingPage.path (⟨['a'], ['y'], []⟩, ⟨['a'], ['z'], []⟩) ∈
        Aggregate.library.liveOf checker {} ⟨threefoldFiles, []⟩ citingPage noKeys ∧
      (Aggregate.library.liveOf checker {} ⟨threefoldFiles, []⟩ citingPage noKeys).length = 1 := by
  have hhosts : Aggregate.library.Hosts checker {} ⟨threefoldFiles, []⟩ citingPage :=
    Aggregate.library_hosts (by simp [Registry.builtins])
  have hkept : ∀ pair ∈ duplicates (entries threefold),
      (Suppression.Record.ofSource citingPage.source).1.suppresses
          (pairProblem citingPage.path pair) = false ∧
        (pairProblem citingPage.path pair).key ∉ noKeys.keys := by
    intro pair _
    rw [record_citingPage]
    exact ⟨rfl, List.not_mem_nil⟩
  obtain ⟨hlive, hlength⟩ := check_keeps_last path_citingPage read_threefold hhosts hkept
  refine ⟨path_citingPage, read_threefold, hhosts, hkept, ?_, ?_⟩
  · exact (hlive _).2 ⟨_, ⟨[_, _], [], duplicates_threefold, by simp⟩, rfl⟩
  · rw [hlength, duplicates_threefold]
    rfl

/-- **A reported pair may be lost**: the first pair of three entries is not live, although
nothing suppresses it and the whitelist is empty. -/
theorem check_loses_duplicate :
    (Suppression.Record.ofSource citingPage.source).1 = .empty ∧ noKeys.keys = [] ∧
      bibliographyPath? citingPage = some "refs.bib".toList ∧
      threefoldFiles.readText "refs.bib".toList = .ok threefold ∧
      (problems citingPage.path threefold).map (·.key) =
        ["BibtexDuplicates/x/y".toList, "BibtexDuplicates/x/z".toList,
          "BibtexDuplicates/y/z".toList] ∧
      ((Aggregate.mk [checker]).check {} ⟨threefoldFiles, []⟩ citingPage
        noKeys).problems.map (·.key) = ["BibtexDuplicates/y/z".toList] := by
  have hfound : (Aggregate.mk [checker]).found {} ⟨threefoldFiles, []⟩ citingPage =
      (duplicates (entries threefold)).map (pairProblem "a.tex".toList) := by
    rw [Aggregate.found_eq, List.flatMap_singleton, findings_eq path_citingPage read_threefold]
    rfl
  refine ⟨record_citingPage, rfl, path_citingPage, read_threefold, ?_, ?_⟩
  · rw [problems_eq, duplicates_threefold]
    decide
  · rw [Aggregate.check, hfound, duplicates_threefold, record_citingPage]
    decide

end LatexReview.Bibliography
