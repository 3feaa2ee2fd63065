import Mathlib
import LatexReview.Proofs.Text.Lines
import LatexReview.Proofs.Whitelist.Reload

/-!
How a whitelist grows.

Keys are added one at a time or in rows. Whatever the keys, the whitelist in memory stays
what its file reads as, and the file only gets longer: by one line for each new key.
-/

namespace LatexReview

namespace FileTree

variable {t t' : FileTree} {path : Path} {place : List Text} {text content : Text}

/-- A file reads as a text. A missing one counts as empty. -/
def Holds (t : FileTree) (path : Path) (content : Text) : Prop :=
  t.readText path = .ok content ∨ t.readText path = .error .notFound ∧ content = []

/-- Anything can be written at the end of a file. -/
def Writable (t : FileTree) (path : Path) : Prop :=
  ∀ text, ∃ t', t.append path text = .ok t'

lemma writable_iff : t.Writable path ↔ ∃ place, t.creationPlace path = .ok place := by
  constructor
  · intro h
    obtain ⟨t', ht⟩ := h []
    obtain ⟨place, hplace, -⟩ := append_eq_ok.1 ht
    exact ⟨place, hplace⟩
  · rintro ⟨place, hplace⟩ text
    exact ⟨_, append_eq_ok.2 ⟨place, hplace, rfl⟩⟩

lemma creationPlace_put (h : t.creationPlace path = .ok place) (bytes : ByteArray) :
    (t.put place (.file bytes)).creationPlace path = .ok place := by
  have hne := creationPlace_ne_nil h
  obtain ⟨hresolve, hslash, hdir⟩ := creationPlace_eq_ok.1 h
  refine creationPlace_eq_ok.2 ⟨resolve_put hne hdir hresolve, hslash, ?_⟩
  rw [node?_put hne, if_pos rfl]
  simp

lemma Writable.append (h : t.append path text = .ok t') : t'.Writable path := by
  obtain ⟨place, hplace, rfl⟩ := append_eq_ok.1 h
  exact writable_iff.2 ⟨place, creationPlace_put hplace _⟩

lemma Holds.append (hold : t.Holds path content) (h : t.append path text = .ok t') :
    t'.Holds path (content ++ text) := Or.inl (readText_append h hold)

end FileTree

namespace Whitelist

variable {s s' s'' : State} {w : Whitelist} {files files' : FileTree} {path : Path}
  {content key bad : Text} {new : List Text}

/-! ### New keys -/

/-- Those of a row of keys that are not among others, each where it comes first. -/
def newKeys (keys : List Text) : List Text → List Text
  | [] => []
  | key :: rest =>
    if key ∈ keys then newKeys keys rest else key :: newKeys (keys ++ [key]) rest

lemma mem_newKeys {keys row : List Text} : key ∈ newKeys keys row ↔ key ∈ row ∧ key ∉ keys := by
  induction row generalizing keys with
  | nil => simp [newKeys]
  | cons first rest ih =>
    rw [newKeys]
    by_cases hf : first ∈ keys
    · rw [if_pos hf, ih, List.mem_cons]
      constructor
      · exact fun ⟨hr, hk⟩ => ⟨Or.inr hr, hk⟩
      · rintro ⟨rfl | hr, hk⟩
        · exact absurd hf hk
        · exact ⟨hr, hk⟩
    · rw [if_neg hf, List.mem_cons, List.mem_cons, ih]
      rcases eq_or_ne key first with rfl | hne
      · simp [hf]
      · simp [hne]

lemma nodup_newKeys (keys row : List Text) : (newKeys keys row).Nodup := by
  induction row generalizing keys with
  | nil => exact List.nodup_nil
  | cons first rest ih =>
    rw [newKeys]
    split
    · exact ih keys
    · refine List.nodup_cons.2 ⟨fun h => ?_, ih _⟩
      exact (mem_newKeys.1 h).2 (by simp)

/-- What is written to the file for new keys, one after the other. -/
def entriesOf (w : Whitelist) : List Text → Text
  | [] => []
  | key :: rest => w.entry key ++ rest.flatMap (· ++ ['\n'])

lemma entriesOf_cons (w : Whitelist) (key : Text) (rest : List Text) :
    w.entriesOf (key :: rest) = w.entry key ++ { w with unended := false }.entriesOf rest := by
  cases rest with
  | nil => rfl
  | cons next rest => simp [entriesOf, entry]

lemma lines_flatMap (h : ∀ key ∈ new, isValid key) :
    Text.lines (new.flatMap (· ++ ['\n'])) = new := by
  refine Text.lines_ofLines_eq (fun key hk => (isValid_iff.1 (h key hk)).2.1) fun key hk hlast => ?_
  exact (isValid_iff.1 (h key hk)).2.2 (List.mem_of_getLast? hlast)

lemma lines_entriesOf (h : ∀ key ∈ new, isValid key) : Text.lines (w.entriesOf new) = new ∨
    Text.lines (w.entriesOf new) = [] :: new := by
  cases new with
  | nil => exact Or.inl (by simp [entriesOf, Text.lines])
  | cons key rest =>
    have hlines := lines_flatMap h
    rw [List.flatMap_cons] at hlines
    cases hu : w.unended with
    | false =>
      refine Or.inl ?_
      simpa [entriesOf, entry, hu] using hlines
    | true =>
      refine Or.inr ?_
      have hbreak := Text.lines_line (List.not_mem_nil (a := '\n'))
        (key ++ ['\n'] ++ rest.flatMap (· ++ ['\n']))
      rw [hlines, Text.dropReturn_of_not_mem (by simp)] at hbreak
      simpa [entriesOf, entry, hu] using hbreak

/-! ### Calls that add keys -/

/-- New keys have come to a whitelist, in memory and at the end of its file. -/
structure Grown (s s' : State) (new : List Text) : Prop where
  path_eq : s'.whitelist.path = s.whitelist.path
  keys_eq : s'.whitelist.keys = s.whitelist.keys ++ new
  unended : s'.whitelist.unended = (s.whitelist.unended && new.isEmpty)
  content : ∀ content, s.files.Holds s.whitelist.path content →
    s'.files.Holds s.whitelist.path (content ++ s.whitelist.entriesOf new)

lemma Grown.refl (s : State) : Grown s s [] :=
  ⟨rfl, by simp, by simp, fun content h => by simpa [entriesOf] using h⟩

/-- A whitelist that has taken up a key, with the files as they are then. -/
def State.taking (s : State) (key : Text) (files : FileTree) : State :=
  ⟨{ s.whitelist with keys := s.whitelist.keys ++ [key], unended := false }, files⟩

lemma Grown.cons (hfirst : s.files.append s.whitelist.path (s.whitelist.entry key) = .ok files')
    (h : Grown (s.taking key files') s' new) : Grown s s' (key :: new) := by
  obtain ⟨hpath, hkeys, hunended, hcontent⟩ := h
  refine ⟨hpath, by simpa [State.taking] using hkeys, by simpa [State.taking] using hunended,
    fun content hold => ?_⟩
  have hnext := hcontent _ (hold.append hfirst)
  rw [List.append_assoc] at hnext
  rw [entriesOf_cons]
  -- What is written depends on nothing of a whitelist but its last line.
  have hrest : entriesOf { s.whitelist with unended := false } new =
      (s.taking key files').whitelist.entriesOf new := by
    cases new <;> rfl
  rwa [hrest]

lemma State.add_writable (hw : s.files.Writable s.whitelist.path) (hv : isValid key)
    (hnew : key ∉ s.whitelist.keys) :
    ∃ files', s.files.append s.whitelist.path (s.whitelist.entry key) = .ok files' ∧
      (s.taking key files').files.Writable (s.taking key files').whitelist.path ∧
      s.add key = (.ok true, s.taking key files', [.whitelisted key]) := by
  obtain ⟨files', happend⟩ := hw (s.whitelist.entry key)
  exact ⟨files', happend, FileTree.Writable.append happend, add_new hv hnew happend⟩

lemma State.add_present (hv : isValid key) (h : key ∈ s.whitelist.keys) :
    s.add key = (.ok false, s, []) := by
  simp [add, hv, contains, h]

lemma State.add_ok (hw : s.files.Writable s.whitelist.path) (hv : isValid key) :
    ∃ isNew s' events, s.add key = (.ok isNew, s', events) ∧
      s'.whitelist.path = s.whitelist.path ∧ s'.files.Writable s'.whitelist.path := by
  by_cases hk : key ∈ s.whitelist.keys
  · exact ⟨false, s, [], add_present hv hk, rfl, hw⟩
  · obtain ⟨files', -, hnext, hadd⟩ := add_writable hw hv hk
    exact ⟨true, s.taking key files', [.whitelisted key], hadd, rfl, hnext⟩

lemma State.add_result (hw : s.files.Writable s.whitelist.path) (key : Text) : (s.add key).1 =
    if isValid key then .ok (decide (key ∉ s.whitelist.keys)) else .error (.invalidKey key) := by
  by_cases hv : isValid key
  · rw [if_pos hv]
    by_cases hk : key ∈ s.whitelist.keys
    · simp [add_present hv hk, hk]
    · obtain ⟨files', -, -, hadd⟩ := add_writable hw hv hk
      simp [hadd, hk]
  · rw [if_neg hv, add_invalid (by simpa using hv)]

/-! ### Rows of keys -/

lemma State.addAll_invalid (h : isValid key = false) (rest : List Text) :
    s.addAll (key :: rest) = (.error (.invalidKey key), s, []) := by
  simp [addAll, add_invalid h]

lemma State.addAll_cons {isNew : Bool} {events : List Event}
    (h : s.add key = (.ok isNew, s', events)) (rest : List Text) :
    (s.addAll (key :: rest)).1 = (s'.addAll rest).1.map (· + if isNew then 1 else 0) ∧
      (s.addAll (key :: rest)).2.1 = (s'.addAll rest).2.1 := by
  simp only [addAll, h, and_self]

/-- **A row of keys** brings those to the whitelist that come before the first one that fits on
no line, and are new. -/
lemma State.grown_addAll (hw : s.files.Writable s.whitelist.path) (row : List Text) :
    Grown s (s.addAll row).2.1 (newKeys s.whitelist.keys (row.takeWhile isValid)) := by
  induction row generalizing s with
  | nil => exact Grown.refl s
  | cons key rest ih =>
    by_cases hv : isValid key
    · rw [List.takeWhile_cons_of_pos hv, newKeys]
      by_cases hk : key ∈ s.whitelist.keys
      · rw [if_pos hk, (addAll_cons (add_present hv hk) rest).2]
        exact ih hw
      · obtain ⟨files', happend, hnext, hadd⟩ := add_writable hw hv hk
        rw [if_neg hk, (addAll_cons hadd rest).2]
        exact Grown.cons happend (ih hnext)
    · rw [List.takeWhile_cons_of_neg hv, addAll_invalid (by simpa using hv)]
      exact Grown.refl s

lemma State.addAll_result (hw : s.files.Writable s.whitelist.path) {row : List Text}
    (h : ∀ key ∈ row, isValid key) :
    (s.addAll row).1 = .ok (newKeys s.whitelist.keys row).length := by
  induction row generalizing s with
  | nil => rfl
  | cons key rest ih =>
    have hv := h key (by simp)
    have hrest : ∀ key ∈ rest, isValid key := fun other ho => h other (by simp [ho])
    rw [newKeys]
    by_cases hk : key ∈ s.whitelist.keys
    · rw [if_pos hk, (addAll_cons (add_present hv hk) rest).1, ih hw hrest]
      rfl
    · obtain ⟨files', -, hnext, hadd⟩ := add_writable hw hv hk
      rw [if_neg hk, (addAll_cons hadd rest).1, ih hnext hrest]
      rfl

lemma State.addAll_stops (hw : s.files.Writable s.whitelist.path) {before : List Text}
    (h : ∀ key ∈ before, isValid key) (hbad : isValid bad = false) (after : List Text) :
    (s.addAll (before ++ bad :: after)).1 = .error (.invalidKey bad) ∧
      (s.addAll (before ++ bad :: after)).2.1 = (s.addAll before).2.1 := by
  induction before generalizing s with
  | nil => simp [addAll_invalid hbad, addAll]
  | cons key rest ih =>
    have hv := h key (by simp)
    have hrest : ∀ key ∈ rest, isValid key := fun other ho => h other (by simp [ho])
    obtain ⟨isNew, s', events, hadd, -, hnext⟩ := add_ok hw hv
    obtain ⟨hresult, hstate⟩ := ih hnext hrest
    have hcons := addAll_cons hadd
    rw [List.cons_append, (hcons _).1, (hcons _).2, (hcons _).2, hresult, hstate]
    exact ⟨rfl, rfl⟩

lemma State.Loaded.addAll (h : s.Loaded) (row : List Text) : (s.addAll row).2.1.Loaded := by
  induction row generalizing s with
  | nil => exact h
  | cons key rest ih =>
    have hadd : (s.add key).2.1.Loaded := h.add
    rcases hcase : s.add key with ⟨e | isNew, s', events⟩
    · rw [hcase] at hadd
      simpa [State.addAll, hcase] using hadd
    · rw [hcase] at hadd
      rw [(State.addAll_cons hcase rest).2]
      exact ih hadd

/-! ### Any calls -/

/-- A call that adds keys. -/
inductive Call where
  | add (key : Text)
  | addAll (keys : List Text)

def Call.keys : Call → List Text
  | .add key => [key]
  | .addAll keys => keys

/-- The keys that a call accepts: those before the first one that fits on no line. -/
def Call.accepted (call : Call) : List Text := call.keys.takeWhile isValid

/-- A whitelist and its file after a call, whatever the call returned. -/
def State.after (s : State) : Call → State
  | .add key => (s.add key).2.1
  | .addAll keys => (s.addAll keys).2.1

def State.afterCalls (s : State) (calls : List Call) : State := calls.foldl after s

lemma State.after_eq (s : State) (call : Call) : s.after call = (s.addAll call.keys).2.1 := by
  cases call with
  | addAll keys => rfl
  | add key =>
    rcases hcase : s.add key with ⟨e | isNew, s', events⟩
    · simp [after, Call.keys, addAll, hcase]
    · rw [Call.keys, (addAll_cons hcase []).2]
      simp [after, addAll, hcase]

/-- The whitelist in memory is what its file reads as, and holds the keys that it was loaded
with and those that calls have accepted since. -/
structure InStep (path : Path) (content : Text) (calls : List Call) (s : State) : Prop where
  path_eq : s.whitelist.path = path
  loaded : load s.files path = .ok s.whitelist
  mem_keys : ∀ key, key ∈ s.whitelist.keys ↔
    key ∈ keysOf content ∨ ∃ call ∈ calls, key ∈ call.accepted

/-- A call makes the file longer, by one line for each key that it accepts and that is new. -/
structure Lengthens (path : Path) (s : State) (call : Call) (content appended : Text)
    (new : List Text) : Prop where
  before : s.files.Holds path content
  after : (s.after call).files.Holds path (content ++ appended)
  keys_eq : (s.after call).whitelist.keys = s.whitelist.keys ++ new
  mem_new : ∀ key, key ∈ new ↔ key ∈ call.accepted ∧ key ∉ s.whitelist.keys
  once : ∀ key ∈ new, appended.lines.count key = 1
  only : ∀ line ∈ appended.lines, line ∈ new ∨ line = []

/-- What calls return, and what they leave as it is. -/
structure Answers (s : State) : Prop where
  add_true : ∀ key, (s.add key).1 = .ok true ↔ isValid key ∧ key ∉ s.whitelist.keys
  present : ∀ key, isValid key → key ∈ s.whitelist.keys → s.add key = (.ok false, s, [])
  rejected : ∀ key, isValid key = false → s.add key = (.error (.invalidKey key), s, [])
  addAll_ok : ∀ keys, (∀ key ∈ keys, isValid key) →
    (s.addAll keys).1 = .ok (newKeys s.whitelist.keys keys).length
  stops : ∀ before bad after, (∀ key ∈ before, isValid key) → isValid bad = false →
    (s.addAll (before ++ bad :: after)).1 = .error (.invalidKey bad) ∧
      (s.addAll (before ++ bad :: after)).2.1 = (s.addAll before).2.1 ∧
      ∀ key ∈ before, key ∈ (s.addAll before).2.1.whitelist.keys

section

variable {calls : List Call} (hw : s.files.Writable s.whitelist.path)

include hw in
lemma State.answers : Answers s := by
  refine ⟨fun key => ?_, fun key hv hk => add_present hv hk, fun key hv => add_invalid hv,
    fun keys h => addAll_result hw h, fun before bad after h hbad => ?_⟩
  · rw [add_result hw]
    by_cases hv : isValid key
    · simp [hv]
    · simp [hv]
  · obtain ⟨hresult, hstate⟩ := addAll_stops hw h hbad after
    refine ⟨hresult, hstate, fun key hk => ?_⟩
    have htake : before.takeWhile isValid = before := List.takeWhile_eq_self_iff.2 h
    rw [(grown_addAll hw before).keys_eq, htake, List.mem_append, mem_newKeys]
    exact (em _).imp_right fun hnew => ⟨hk, hnew⟩

include hw in
lemma State.writable_addAll (row : List Text) :
    (s.addAll row).2.1.files.Writable s.whitelist.path := by
  induction row generalizing s with
  | nil => exact hw
  | cons key rest ih =>
    by_cases hv : isValid key
    · obtain ⟨isNew, s', events, hadd, hpath, hnext⟩ := add_ok hw hv
      rw [(addAll_cons hadd rest).2, ← hpath]
      exact ih hnext
    · rw [addAll_invalid (by simpa using hv)]
      exact hw

include hw in
lemma State.Loaded.lengthens (h : s.Loaded) (call : Call) :
    ∃ content appended new, Lengthens s.whitelist.path s call content appended new := by
  obtain ⟨content, hold, -⟩ := load_eq_ok.1 h
  have hgrown := State.grown_addAll hw call.keys
  have hvalid : ∀ key ∈ newKeys s.whitelist.keys call.accepted, isValid key := by
    intro key hk
    exact List.mem_takeWhile_imp (mem_newKeys.1 hk).1
  have hnodup := nodup_newKeys s.whitelist.keys call.accepted
  have hlines := lines_entriesOf (w := s.whitelist) hvalid
  refine ⟨content, s.whitelist.entriesOf (newKeys s.whitelist.keys call.accepted),
    newKeys s.whitelist.keys call.accepted, ?_⟩
  constructor
  case before => exact hold
  case after => exact State.after_eq s call ▸ hgrown.content content hold
  case keys_eq => exact State.after_eq s call ▸ hgrown.keys_eq
  case mem_new => exact fun key => mem_newKeys
  case once =>
    intro key hk
    have hne : key ≠ [] := by
      rintro rfl
      simpa [isValid, Text.blank] using hvalid [] hk
    rcases hlines with hl | hl
    · rw [hl]
      exact List.count_eq_one_of_mem hnodup hk
    · rw [hl, List.count_cons_of_ne hne.symm]
      exact List.count_eq_one_of_mem hnodup hk
  case only =>
    intro line hl
    rcases hlines with he | he
    · exact Or.inl (he ▸ hl)
    · rw [he, List.mem_cons] at hl
      exact hl.symm

include hw in
lemma InStep.after (h : InStep path content calls s) (call : Call) :
    InStep path content (calls ++ [call]) (s.after call) := by
  have hgrown := State.grown_addAll hw call.keys
  rw [State.after_eq]
  constructor
  case path_eq => rw [hgrown.path_eq, h.path_eq]
  case loaded =>
    have hloaded : s.Loaded := by
      rw [State.Loaded, h.path_eq]
      exact h.loaded
    have hnext := hloaded.addAll call.keys
    rwa [State.Loaded, hgrown.path_eq, h.path_eq] at hnext
  case mem_keys =>
    intro key
    have hcall : key ∈ newKeys s.whitelist.keys (call.keys.takeWhile isValid) ↔
        key ∈ call.accepted ∧ key ∉ s.whitelist.keys := mem_newKeys
    have hall : (∃ other ∈ calls ++ [call], key ∈ other.accepted) ↔
        (∃ other ∈ calls, key ∈ other.accepted) ∨ key ∈ call.accepted := by
      simp [or_and_right, exists_or]
    rw [hgrown.keys_eq, List.mem_append, hcall, hall, ← or_assoc, ← h.mem_keys]
    tauto

end

lemma inStep_run (hold : files.Holds path content) (hwrite : files.Writable path)
    (calls : List Call) :
    InStep path content calls (State.afterCalls ⟨ofContent path content, files⟩ calls) ∧
      (State.afterCalls ⟨ofContent path content, files⟩ calls).files.Writable path := by
  induction calls using List.reverseRecOn with
  | nil =>
    have hload : load files path = .ok (ofContent path content) :=
      load_eq_ok.2 ⟨content, hold, rfl⟩
    exact ⟨⟨rfl, hload, fun key => by simp [State.afterCalls, ofContent]⟩, hwrite⟩
  | append_singleton calls call ih =>
    have hlast : State.afterCalls ⟨ofContent path content, files⟩ (calls ++ [call]) =
        (State.afterCalls ⟨ofContent path content, files⟩ calls).after call := by
      simp [State.afterCalls]
    rw [hlast]
    generalize State.afterCalls ⟨ofContent path content, files⟩ calls = s at ih ⊢
    obtain ⟨hstep, hnow⟩ := ih
    rw [← hstep.path_eq] at hnow
    refine ⟨hstep.after hnow call, ?_⟩
    rw [State.after_eq, ← hstep.path_eq]
    exact State.writable_addAll hnow call.keys

/-- **A whitelist and its file never drift apart**, however keys are added to a whitelist that
was loaded from a file that can be written. After any calls it is what the file reads as, with
the keys of the file as it was and all that calls accepted. A further call makes the file
longer by a line for each new key, and a key that is rejected changes nothing. -/
theorem inStep_afterCalls (hold : files.Holds path content) (hwrite : files.Writable path)
    (calls : List Call) :
    load files path = .ok (ofContent path content) ∧
      let s := State.afterCalls ⟨ofContent path content, files⟩ calls
      InStep path content calls s ∧
        (∀ call, ∃ content appended new, Lengthens path s call content appended new) ∧
        Answers s := by
  refine ⟨load_eq_ok.2 ⟨content, hold, rfl⟩, ?_⟩
  intro s
  obtain ⟨hstep, hnow⟩ : InStep path content calls s ∧ s.files.Writable path :=
    inStep_run hold hwrite calls
  have hloaded : s.Loaded := by
    rw [State.Loaded, hstep.path_eq]
    exact hstep.loaded
  rw [← hstep.path_eq] at hnow
  refine ⟨hstep, ?_, State.answers hnow⟩
  rw [← hstep.path_eq]
  exact hloaded.lengthens hnow

/-- A text whose last line has a carriage return, but no line break. -/
def unendedText : Text := "a\nb\r".toList

def unendedFile : FileTree :=
  FileTree.empty.put ["keys".toList] (.file unendedText.toBytes)

/-- A row with a blank key in it, a key that takes two lines, and a key that is there. -/
def mixedCalls : List Call :=
  [.addAll ["c".toList, "a".toList, " ".toList, "d".toList], .add "x\ny".toList,
    .add "c".toList]

theorem inStep_afterCalls_unended :
    unendedFile.Holds "keys".toList unendedText ∧ unendedFile.Writable "keys".toList ∧
      let s := State.afterCalls ⟨ofContent "keys".toList unendedText, unendedFile⟩ mixedCalls
      InStep "keys".toList unendedText mixedCalls s ∧
        s.whitelist.keys = ["a".toList, "b".toList, "c".toList] := by
  have hold : unendedFile.Holds "keys".toList unendedText := Or.inl (by cbv)
  have hwrite : unendedFile.Writable "keys".toList :=
    FileTree.writable_iff.2 ⟨["keys".toList], by cbv⟩
  exact ⟨hold, hwrite, (inStep_afterCalls hold hwrite mixedCalls).2.1, by cbv⟩

end Whitelist

end LatexReview
