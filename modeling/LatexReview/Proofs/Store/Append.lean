import Mathlib
import LatexReview.Proofs.Basic
import LatexReview.Proofs.Text.Bytes
import LatexReview.Store.FileTree

/-!
Writing at the end of a file.

The path leads to the same place before and after, and what is read there is the old text
with the new one behind it. A file that was missing holds just the new text.
-/

namespace LatexReview

namespace Text

lemma getLast?_splitOn {d : Char} {s : Text} (hs : s ≠ []) (hd : s.getLast? ≠ some d) :
    (s.splitOn d).getLast? ≠ some [] := by
  induction s with
  | nil => exact absurd rfl hs
  | cons c s ih =>
    rw [List.splitOn_cons_eq_if_modifyHead]
    rcases eq_or_ne s [] with rfl | hne
    · have hc : c ≠ d := by simpa using hd
      simp [hc]
    have hlast := ih hne (by rwa [List.getLast?_cons_of_ne_nil hne] at hd)
    split
    · rwa [List.getLast?_cons_of_ne_nil (List.splitOn_ne_nil d s)]
    · obtain ⟨part, parts, hp⟩ := List.exists_cons_of_ne_nil (List.splitOn_ne_nil d s)
      rw [hp] at hlast ⊢
      cases parts with
      | nil => simp
      | cons next parts => simpa using hlast

end Text

namespace FileTree

variable {t t' : FileTree} {path : Path} {place : List Text} {node : Node}

lemma node?_put (h : place ≠ []) (names : List Text) :
    (t.put place node).node? names = if names = place then some node else t.node? names := by
  by_cases hn : names = []
  · subst hn
    simp [node?, Ne.symm h]
  · simp only [node?, put, hn, if_false]
    exact lookup_put _ _

lemma enter_inside {names : List Text} {part : Text} {q : Place}
    (h : t.enter (.inside names) part = .ok q) : t.node? names = some .directory := by
  simp only [enter] at h
  split at h
  · simp at h
  · assumption
  · simp at h

lemma enter_put (hplace : place ≠ []) (hdir : t.node? place ≠ some .directory) {p q : Place}
    {part : Text} (h : t.enter p part = .ok q) : (t.put place node).enter p part = .ok q := by
  cases p with
  | above => exact h
  | inside names =>
    have hne : names ≠ place := by
      rintro rfl
      exact hdir (enter_inside h)
    simp only [enter] at h ⊢
    rwa [node?_put hplace, if_neg hne]

lemma walk_put (hplace : place ≠ []) (hdir : t.node? place ≠ some .directory) {p q : Place}
    {parts : List Text} (h : t.walk p parts = .ok q) :
    (t.put place node).walk p parts = .ok q := by
  induction parts generalizing p with
  | nil => exact h
  | cons part parts ih =>
    simp only [walk, List.foldlM_cons, bind_eq_ok] at h ih ⊢
    obtain ⟨next, he, h⟩ := h
    exact ⟨next, enter_put hplace hdir he, ih h⟩

lemma properParts_eq (hp : path ≠ []) (h : path.getLast? ≠ some Path.separator) :
    properParts path = path.splitOn Path.separator := by
  have hne := List.splitOn_ne_nil Path.separator path
  have hlast := Text.getLast?_splitOn hp h
  rw [List.getLast?_eq_some_getLast hne] at hlast
  change List.rdropWhile _ _ = _
  rw [List.rdropWhile_eq_self_iff]
  intro _
  simpa using hlast

/-! ### The place of a file -/

lemma creationPlace_eq_ok : t.creationPlace path = .ok place ↔
    t.resolve path = .ok (.inside place) ∧ path.getLast? ≠ some Path.separator ∧
      t.node? place ≠ some .directory := by
  have hparts : path.getLast? ≠ some Path.separator → checkPath path = .ok () →
      properParts path = path.splitOn Path.separator := by
    intro hl hcheck
    refine properParts_eq ?_ hl
    rintro rfl
    simp [checkPath] at hcheck
  simp only [creationPlace, resolve, bind_eq_ok]
  constructor
  · rintro ⟨_, hcheck, q, hwalk, h⟩
    cases q with
    | above => simp at h
    | inside names =>
      simp only at h
      split at h
      · simp at h
      rename_i hl
      split at h
      · simp at h
      rename_i hnode
      obtain rfl := Except.ok.inj h
      rw [hparts hl hcheck] at hwalk
      exact ⟨⟨_, hcheck, hwalk⟩, hl, hnode⟩
  · rintro ⟨⟨_, hcheck, hwalk⟩, hl, hnode⟩
    rw [← hparts hl hcheck] at hwalk
    refine ⟨_, hcheck, _, hwalk, ?_⟩
    simp only [hl, if_false]

lemma creationPlace_ne_nil (h : t.creationPlace path = .ok place) : place ≠ [] := by
  rintro rfl
  exact (creationPlace_eq_ok.1 h).2.2 rfl

lemma resolve_put (hplace : place ≠ []) (hdir : t.node? place ≠ some .directory) {q : Place}
    (h : t.resolve path = .ok q) : (t.put place node).resolve path = .ok q := by
  simp only [resolve, bind_eq_ok] at h ⊢
  obtain ⟨_, hcheck, hwalk⟩ := h
  exact ⟨_, hcheck, walk_put hplace hdir hwalk⟩

/-! ### Reading and writing there -/

lemma readText_inside (h : t.resolve path = .ok (.inside place)) : t.readText path =
    match t.node? place with
    | none => .error .notFound
    | some .directory => .error .isADirectory
    | some (.file content) =>
      match Text.ofBytes? content with
      | some s => .ok s
      | none => .error .malformedText
    | some (.program _) => .ok [] := by
  simp only [readText, readBytes, find, h, bind, Except.bind]
  cases t.node? place with
  | none => rfl
  | some node =>
    cases node with
    | directory => rfl
    | file content => rfl
    | program behaviour => simp [Text.ofBytes?_empty]

/-- What a file holds before something is written at its end. -/
def contentAt (t : FileTree) (place : List Text) : ByteArray :=
  match t.node? place with
  | some (.file content) => content
  | _ => .empty

lemma append_eq_ok {text : Text} : t.append path text = .ok t' ↔
    ∃ place, t.creationPlace path = .ok place ∧
      t' = t.put place (.file (t.contentAt place ++ text.toBytes)) := by
  simp only [append, bind_eq_ok, contentAt]
  refine exists_congr fun place => and_congr_right fun _ => ?_
  cases t.node? place with
  | none => simp [eq_comm]
  | some node => cases node <;> simp [eq_comm]

/-- **Appending adds to what is read**: a text that was read, or an empty one for a missing
file, is read again with the new text behind it. -/
lemma readText_append {text old : Text} (h : t.append path text = .ok t')
    (hold : t.readText path = .ok old ∨ t.readText path = .error .notFound ∧ old = []) :
    t'.readText path = .ok (old ++ text) := by
  obtain ⟨place, hplace, rfl⟩ := append_eq_ok.1 h
  have hne := creationPlace_ne_nil hplace
  obtain ⟨hresolve, -, hdir⟩ := creationPlace_eq_ok.1 hplace
  have hbytes : t.contentAt place = old.toBytes := by
    rw [readText_inside hresolve] at hold
    unfold contentAt
    cases hn : t.node? place with
    | none =>
      obtain rfl : old = [] := by simpa [hn] using hold
      simp [Text.toBytes_eq]
    | some node =>
      cases node with
      | directory => simp [hn] at hold
      | file content =>
        have hread : Text.ofBytes? content = some old := by
          cases hc : Text.ofBytes? content with
          | none => simp [hn, hc] at hold
          | some s => simpa [hn, hc] using hold
        exact Text.ofBytes?_eq_some.1 hread
      | program behaviour =>
        obtain rfl : old = [] := by simpa [hn, eq_comm] using hold
        simp [Text.toBytes_eq]
  have hread := Text.ofBytes?_eq_some.2 (rfl : (old ++ text).toBytes = (old ++ text).toBytes)
  rw [Text.toBytes_append] at hread
  rw [readText_inside (resolve_put hne hdir hresolve), node?_put hne, if_pos rfl, hbytes]
  simp only [hread]

end FileTree

end LatexReview
