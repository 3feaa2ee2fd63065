import Mathlib
import LatexReview.Proofs.Checker.Stamp
import LatexReview.Proofs.Detex.Flaws

/-!
No structural error is lost.

The errors of a document have different positions, so the problems made from them have
different uids, and a check keeps each of them.
-/

namespace LatexReview

lemma Detex.ParseError.message_ne_nil (e : Detex.ParseError) : e.message ≠ [] := by
  unfold message Detex.Fault.message
  split <;> simp

namespace Structure

open Problem

variable {path : Path} {e e' : Detex.ParseError} {d : Document}

@[simp] lemma position_build : (draft path e).build.position = e.position :=
  if_neg e.message_ne_nil

lemma uid_build_eq_iff :
    (draft path e).build.uid = (draft path e').build.uid ↔ e.position = e'.position := by
  have huid := uid_eq_iff_of_alike (p := (draft path e).build) (q := (draft path e').build)
    rfl rfl rfl rfl
  rw [huid, position_build, position_build]
  exact and_iff_left rfl

lemma positions_problems (d : Document) :
    (problems d).map (·.position) = d.parseErrors.map (·.position) := by
  rw [problems, List.map_map]
  exact List.map_congr_left fun _ _ => position_build

lemma nodup_uids (h : (d.parseErrors.map (·.position)).Nodup) :
    ((problems d).map uid).Nodup := by
  have hne : d.parseErrors.Pairwise fun e e' => e.position ≠ e'.position :=
    List.pairwise_map.1 h
  rw [problems, List.map_map]
  exact List.pairwise_map.2 (hne.imp fun hne huid => hne (uid_build_eq_iff.1 huid))

/-- **No structural error is lost.** The errors of a source have positions, all different; so
have the problems made from them, and different uids. If none of them is suppressed or on the
whitelist, the live problems of the checker are just these. -/
theorem check_keeps_errors (path : Path) {source : Text} (hs : source.length < 2 ^ 32 - 1) :
    let d := Document.ofSource path source
    (∀ e ∈ (detex source).errors, e.position.isSome) ∧
    ((detex source).errors.map (·.position)).Nodup ∧
    ((problems d).map uid).Nodup ∧
    (problems d).map (·.position) = (detex source).errors.map (·.position) ∧
    ∀ (a : Aggregate) (c : Config) (env : Environment) (w : Whitelist),
      a.Hosts checker c env d →
      (∀ p ∈ problems d, (Suppression.Record.ofSource source).1.suppresses p = false ∧
        p.key ∉ w.keys) →
      (a.liveOf checker c env d w).Perm
        ((detex source).errors.map fun e => (draft path e).build) := by
  intro d
  obtain ⟨hsome, hnodup⟩ := Detex.positions_errors hs
  have huids : ((problems d).map uid).Nodup := nodup_uids hnodup
  refine ⟨hsome, hnodup, huids, positions_problems d, fun a c env w ha hkept => ?_⟩
  have hlive : (a.liveOf checker c env d w).Nodup :=
    List.Nodup.of_map _ (a.nodup_uids_liveOf checker c env d w)
  refine (List.perm_ext_iff_of_nodup hlive (List.Nodup.of_map _ huids)).2 fun p => ?_
  refine (ha.mem_liveOf_iff_of_kept hkept).trans ⟨mem_of_latest?, fun hp => ?_⟩
  exact latest?_eq_some_of_unique hp fun q hq huid =>
    List.inj_on_of_nodup_map huids hq hp huid

/-- A source in which nothing fits. The directive in it is about an empty line. -/
def brokenSource : Text :=
  "% buddy ignore-next\n\n\x7d\n\\begin\x7ba\x7d \x7b \\end\x7bb\x7d\n\\[ y".toList

def brokenPage : Document := .ofSource "a.tex".toList brokenSource

def otherKeys : Whitelist := ⟨"keys".toList, ["Detex/detex/other".toList], false⟩

theorem check_keeps_errors_broken :
    brokenSource.length < 2 ^ 32 - 1 ∧ Aggregate.library.Hosts checker {} .empty brokenPage ∧
      (∀ p ∈ problems brokenPage,
        (Suppression.Record.ofSource brokenSource).1.suppresses p = false ∧
          p.key ∉ otherKeys.keys) ∧
      (detex brokenSource).errors =
        [⟨some ⟨3, 1⟩, .unmatchedClosingBrace⟩, ⟨some ⟨4, 13⟩, .crossedEnvironment ['a'] ['b']⟩,
          ⟨some ⟨5, 1⟩, .unclosedBracketMath⟩, ⟨some ⟨4, 11⟩, .unclosedBrace⟩,
          ⟨some ⟨4, 1⟩, .unclosedEnvironment ['a']⟩] ∧
      (Aggregate.library.liveOf checker {} .empty brokenPage otherKeys).Perm
        ((detex brokenSource).errors.map fun e => (draft "a.tex".toList e).build) := by
  have hs : brokenSource.length < 2 ^ 32 - 1 := by decide
  have hhosts : Aggregate.library.Hosts checker {} .empty brokenPage :=
    Aggregate.library_hosts (by simp [Registry.builtins])
  have herrors : (detex brokenSource).errors =
      [⟨some ⟨3, 1⟩, .unmatchedClosingBrace⟩, ⟨some ⟨4, 13⟩, .crossedEnvironment ['a'] ['b']⟩,
        ⟨some ⟨5, 1⟩, .unclosedBracketMath⟩, ⟨some ⟨4, 11⟩, .unclosedBrace⟩,
        ⟨some ⟨4, 1⟩, .unclosedEnvironment ['a']⟩] := by cbv
  have hrecord : (Suppression.Record.ofSource brokenSource).1 =
      ⟨[⟨.lines, 2, some 2⟩], []⟩ := by cbv
  have hkept : ∀ p ∈ problems brokenPage,
      (Suppression.Record.ofSource brokenSource).1.suppresses p = false ∧
        p.key ∉ otherKeys.keys := by
    have hproblems : problems brokenPage =
        (detex brokenSource).errors.map fun e => (draft "a.tex".toList e).build := rfl
    rw [hproblems, herrors, hrecord]
    decide
  obtain ⟨-, -, -, -, hlive⟩ := check_keeps_errors "a.tex".toList hs
  exact ⟨hs, hhosts, hkept, herrors, hlive _ {} .empty otherKeys hhosts hkept⟩

end Structure

end LatexReview
