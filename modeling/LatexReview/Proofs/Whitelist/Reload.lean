import Mathlib
import LatexReview.Proofs.Store.Append
import LatexReview.Whitelist

/-!
A whitelist is what its file reads as.

What is written for a new key reads back as that key behind the keys that were there,
whether the last line of the file was ended or not. So reading the file again gives the
whitelist in memory, however often keys are added.
-/

namespace LatexReview.Whitelist

variable {s : State} {w : Whitelist} {files files' : FileTree} {path : Path}
  {content key : Text}

/-- The lines of a text that hold a key, with repetitions. -/
def rows (content : Text) : List Text :=
  ((content.splitOn '\n').map (Text.dropEndWhile isReturn)).filter fun line => !Text.blank line

@[simp] lemma rows_nil : rows [] = [] := by
  simp [rows, Text.dropEndWhile, Text.blank]

lemma rows_append (s t : Text) : rows (s ++ '\n' :: t) = rows s ++ rows t := by
  rw [rows, List.splitOn_append_cons_of_beq _ _ (by simp), List.map_append, List.filter_append]
  rfl

lemma dropEndWhile_dropReturn (line : Text) :
    (Text.dropReturn line).dropEndWhile isReturn = line.dropEndWhile isReturn := by
  unfold Text.dropReturn Text.stripEnd?
  split
  · rename_i h
    obtain ⟨before, rfl⟩ := List.isSuffixOf_iff_suffix.1 h
    have htake : (before ++ ['\r']).take ((before ++ ['\r']).length - ['\r'].length) = before := by
      simp
    rw [htake, Option.getD_some]
    exact (List.rdropWhile_concat_pos _ _ _ rfl).symm
  · rfl

lemma keysOf_eq_rows (content : Text) : keysOf content = (rows content).eraseDups := by
  have hne := List.splitOn_ne_nil '\n' content
  obtain ⟨first, last, hparts⟩ : ∃ first last, content.splitOn '\n' = first ++ [last] :=
    ⟨_, _, (List.dropLast_append_getLast hne).symm⟩
  have hmap : (first.map Text.dropReturn).map (Text.dropEndWhile isReturn) =
      first.map (Text.dropEndWhile isReturn) := by
    rw [List.map_map]
    exact List.map_congr_left fun line _ => dropEndWhile_dropReturn line
  have hlast : ((if last = [] then [] else [last]).map (Text.dropEndWhile isReturn)).filter
      (fun line => !Text.blank line) =
        ([last].map (Text.dropEndWhile isReturn)).filter fun line => !Text.blank line := by
    split
    · rename_i h
      simp [h, Text.dropEndWhile, Text.blank]
    · rfl
  rw [keysOf, rows, Text.lines, hparts, List.dropLast_concat, List.getLastD_concat,
    List.map_append, List.filter_append, hmap, hlast, ← List.filter_append, ← List.map_append]

lemma isValid_iff : isValid key ↔ key.blank = false ∧ '\n' ∉ key ∧ '\r' ∉ key := by
  simp [isValid, and_assoc]

lemma rows_key (h : isValid key) : rows key = [key] := by
  obtain ⟨hblank, hbreak, hreturn⟩ := isValid_iff.1 h
  have hdrop : key.dropEndWhile isReturn = key := by
    refine List.rdropWhile_eq_self_iff.2 fun hne hr => hreturn ?_
    have hlast : key.getLast hne = '\r' := by simpa [isReturn] using hr
    exact hlast ▸ List.getLast_mem hne
  rw [rows, List.splitOn_eq_singleton hbreak, List.map_singleton, hdrop,
    List.filter_singleton]
  simp [hblank]

lemma rows_entry (h : isValid key) :
    rows (content ++ (ofContent path content).entry key) = rows content ++ [key] := by
  have hrow : rows (key ++ ['\n']) = [key] := by
    rw [rows_append, rows_key h, rows_nil, List.append_nil]
  rcases List.eq_nil_or_concat content with rfl | ⟨before, c, rfl⟩
  · simpa [entry, ofContent] using hrow
  by_cases hc : c = '\n'
  · subst hc
    have hold : rows (before ++ ['\n']) = rows before := by
      rw [rows_append, rows_nil, List.append_nil]
    have hentry : (ofContent path (before ++ ['\n'])).entry key = key ++ ['\n'] := by
      simp [entry, ofContent]
    rw [List.concat_eq_append, hentry, hold, List.append_assoc, List.singleton_append,
      rows_append, hrow]
  · have hentry : (ofContent path (before.concat c)).entry key = '\n' :: (key ++ ['\n']) := by
      simp [entry, ofContent, hc]
    rw [hentry, rows_append, hrow]

lemma ofContent_entry (h : isValid key) (hnew : key ∉ keysOf content) :
    ofContent path (content ++ (ofContent path content).entry key) =
      { ofContent path content with
        keys := (ofContent path content).keys ++ [key], unended := false } := by
  have hkeys : keysOf (content ++ (ofContent path content).entry key) =
      keysOf content ++ [key] := by
    rw [keysOf_eq_rows, List.mem_eraseDups] at hnew
    rw [keysOf_eq_rows, keysOf_eq_rows, rows_entry h, List.eraseDups_append]
    simp [List.removeAll, hnew, List.eraseDups_cons]
  have hend : (content ++ (ofContent path content).entry key).getLast? = some '\n' := by
    simp [entry]
  generalize (ofContent path content).entry key = added at hkeys hend ⊢
  rw [ofContent, hkeys, hend]
  simp [ofContent]

/-! ### Loading -/

lemma load_eq_ok : load files path = .ok w ↔ ∃ content,
    (files.readText path = .ok content ∨
      files.readText path = .error .notFound ∧ content = []) ∧ w = ofContent path content := by
  unfold load
  cases files.readText path with
  | ok content => simp [eq_comm]
  | error cause => cases cause <;> simp [eq_comm]

/-- The whitelist in memory is what the file reads as. -/
def State.Loaded (s : State) : Prop := load s.files s.whitelist.path = .ok s.whitelist

lemma State.Loaded.append (h : s.Loaded) (hv : isValid key) (hnew : key ∉ s.whitelist.keys)
    (happend : s.files.append s.whitelist.path (s.whitelist.entry key) = .ok files') :
    State.Loaded ⟨{ s.whitelist with
      keys := s.whitelist.keys ++ [key], unended := false }, files'⟩ := by
  obtain ⟨w, files⟩ := s
  simp only [State.Loaded] at h hnew happend ⊢
  generalize w.path = path at h happend ⊢
  obtain ⟨content, hread, rfl⟩ := load_eq_ok.1 h
  exact load_eq_ok.2 ⟨_, Or.inl (FileTree.readText_append happend hread),
    (ofContent_entry hv hnew).symm⟩

/-! ### Adding a key -/

lemma State.add_invalid (h : isValid key = false) :
    s.add key = (.error (.invalidKey key), s, []) := by
  simp [add, h]

lemma State.add_new (hv : isValid key) (hnew : key ∉ s.whitelist.keys)
    (happend : s.files.append s.whitelist.path (s.whitelist.entry key) = .ok files') :
    s.add key = (.ok true, ⟨{ s.whitelist with
      keys := s.whitelist.keys ++ [key], unended := false }, files'⟩, [.whitelisted key]) := by
  simp [add, hv, contains, hnew, happend]

lemma State.add_cases (s : State) (key : Text) :
    (∃ e, s.add key = (.error e, s, [])) ∨
      key ∈ s.whitelist.keys ∧ s.add key = (.ok false, s, []) ∨
      isValid key ∧ key ∉ s.whitelist.keys ∧
        ∃ files', s.files.append s.whitelist.path (s.whitelist.entry key) = .ok files' := by
  by_cases hv : isValid key
  · by_cases hk : key ∈ s.whitelist.keys
    · simp [add, hv, contains, hk]
    · cases ha : s.files.append s.whitelist.path (s.whitelist.entry key) with
      | error cause => simp [add, hv, contains, hk, ha]
      | ok files' => simp [hv, hk]
  · exact Or.inl ⟨_, add_invalid (by simpa using hv)⟩

lemma State.Loaded.add (h : s.Loaded) : (s.add key).2.1.Loaded := by
  rcases s.add_cases key with ⟨e, he⟩ | ⟨-, he⟩ | ⟨hv, hnew, files', happend⟩
  · rwa [he]
  · rwa [he]
  · rw [State.add_new hv hnew happend]
    exact h.append hv hnew happend

end LatexReview.Whitelist
