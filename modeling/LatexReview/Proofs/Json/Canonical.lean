import Mathlib
import LatexReview.Proofs.Json.Written
import LatexReview.Proofs.Text.Order

/-!
The values that are read.

In a value that was read, the members of each object are in the order of their names, each
name once, and an integer is one of 64 bits. Such a value is read again from its text, but for
numbers of double precision whose text is read as another one.
-/

namespace LatexReview

namespace Json

variable {name : Text} {v : Json} {n : Number} {members read : List (Text × Json)}

/-- Names are in order, each one once. -/
def Ordered {α : Type} (members : List (Text × α)) : Prop :=
  (members.map (·.1)).Pairwise (· < ·)

lemma Ordered.cons_iff {α : Type} {m : Text × α} {members : List (Text × α)} :
    Ordered (m :: members) ↔ (∀ other ∈ members, m.1 < other.1) ∧ Ordered members := by
  simp [Ordered, List.pairwise_cons]

lemma insert_cons (name : Text) (v : Json) (m : Text × Json) (rest : List (Text × Json)) :
    insert name v (m :: rest) =
      if name < m.1 then (name, v) :: m :: rest
      else if m.1 < name then m :: insert name v rest
      else (name, v) :: rest := by
  obtain ⟨other, old⟩ := m
  rw [insert, Text.compare_eq]
  dsimp only
  split_ifs <;> rfl

lemma mem_insert {m : Text × Json} (h : m ∈ insert name v members) :
    m = (name, v) ∨ m ∈ members := by
  induction members with
  | nil => exact .inl (List.mem_singleton.1 h)
  | cons first rest ih =>
    rw [insert_cons] at h
    split_ifs at h
    · exact List.mem_cons.1 h
    · rcases List.mem_cons.1 h with rfl | h
      · exact .inr List.mem_cons_self
      · exact (ih h).imp_right (List.mem_cons_of_mem first)
    · exact (List.mem_cons.1 h).imp_right (List.mem_cons_of_mem first)

lemma Ordered.insert (h : Ordered members) : Ordered (insert name v members) := by
  induction members with
  | nil => simp [Ordered, Json.insert]
  | cons first rest ih =>
    obtain ⟨hfirst, hrest⟩ := Ordered.cons_iff.1 h
    rw [insert_cons]
    split_ifs with hbefore hafter
    · refine Ordered.cons_iff.2 ⟨fun other hother => ?_, h⟩
      rcases List.mem_cons.1 hother with rfl | hother
      · exact hbefore
      · exact hbefore.trans (hfirst other hother)
    · refine Ordered.cons_iff.2 ⟨fun other hother => ?_, ih hrest⟩
      rcases mem_insert hother with rfl | hother
      · exact hafter
      · exact hfirst other hother
    · have hname : name = first.1 := le_antisymm (not_lt.1 hafter) (not_lt.1 hbefore)
      refine Ordered.cons_iff.2 ⟨fun other hother => ?_, hrest⟩
      rw [hname]
      exact hfirst other hother

lemma insert_of_forall_lt (h : ∀ m ∈ members, m.1 < name) :
    insert name v members = members ++ [(name, v)] := by
  induction members with
  | nil => rfl
  | cons first rest ih =>
    obtain ⟨hfirst, hrest⟩ := List.forall_mem_cons.1 h
    rw [insert_cons, if_neg hfirst.not_gt, if_pos hfirst, ih hrest, List.cons_append]

/-! ### What is read -/

/-- A value as the reader leaves it. -/
inductive Canonical : Json → Prop
  | null : Canonical .null
  | bool (b : Bool) : Canonical (.bool b)
  | integer {k : ℤ} (hlow : -(signedBound : ℤ) ≤ k) (hhigh : k < UInt64.size) :
    Canonical (.number (.integer k))
  | double (x : Binary64) : Canonical (.number (.double x))
  | string (s : Text) : Canonical (.string s)
  | array {items : List Json} (h : ∀ v ∈ items, Canonical v) : Canonical (.array items)
  | object {members : List (Text × Json)} (hordered : Ordered members)
    (h : ∀ m ∈ members, Canonical m.2) : Canonical (.object members)

lemma takeDigits_lt {start : ℕ} {digits : Text} (h : start < UInt64.size) :
    (takeDigits start digits).1 < UInt64.size := by
  induction digits generalizing start with
  | nil => exact h
  | cons c digits ih =>
    rw [takeDigits]
    split
    · exact ih ‹_›
    · exact h

lemma Decimal.canonical_value? {d : Decimal} (h : d.value? = some n) : Canonical (.number n) := by
  have hwhole : (takeDigits 0 d.whole).1 < UInt64.size := takeDigits_lt (by decide)
  rw [Decimal.value?] at h
  generalize takeDigits 0 d.whole = taken at h hwhole
  obtain ⟨whole, cut⟩ := taken
  dsimp only at h hwhole
  split at h
  · split at h
    · obtain rfl := Option.some.inj h
      exact .integer (by omega) (by omega)
    · split at h
      · obtain rfl := Option.some.inj h
        exact .double _
      · rename_i hsmall
        obtain rfl := Option.some.inj h
        have hle : whole ≤ signedBound := by
          simp only [Bool.or_eq_true, decide_eq_true_eq, not_or] at hsmall
          omega
        exact .integer (by omega) (by omega)
  · obtain ⟨x, -, rfl⟩ := Option.map_eq_some_iff.1 h
    exact .double _

lemma canonical_ofNumeral (token : Text) : Canonical (ofNumeral token) := by
  have hdecimal : ∀ negative unsigned, Canonical (ofNumeral.decimal negative unsigned token) := by
    intro negative unsigned
    rw [ofNumeral.decimal]
    split
    · exact Decimal.canonical_value? ‹_›
    · exact .string token
  have hbound : signedBound < UInt64.size := by decide
  rw [ofNumeral]
  dsimp only
  split
  · split
    · split
      · split
        · exact .integer (by omega) (by omega)
        · exact .integer (by omega) (by omega)
      · exact .string token
    · exact hdecimal _ _
  · exact hdecimal _ _

lemma Canonical.insert (h : Canonical (.object members)) (hv : Canonical v) :
    Canonical (.object (insert name v members)) := by
  cases h with
  | object hordered h =>
    refine .object hordered.insert fun m hm => ?_
    rcases mem_insert hm with rfl | hm
    · exact hv
    · exact h m hm

/-- What stands around a value is as the reader leaves it. -/
inductive Frame.Sound : Frame → Prop
  | array {items : List Json} (h : Canonical (.array items)) : Sound (.array items)
  | object {members : List (Text × Json)} (h : Canonical (.object members)) (name : Text) :
    Sound (.object members name)

namespace Reader

variable {reader next : Reader} {token : Token} {stack : List Frame} {items : List Json}

/-- All that the reader has read is as it leaves it. -/
def Sound : Reader → Prop
  | .value stack => ∀ f ∈ stack, f.Sound
  | .item items stack | .afterItem items stack =>
    Canonical (.array items) ∧ ∀ f ∈ stack, f.Sound
  | .member members stack | .afterMember members stack | .colon members _ stack =>
    Canonical (.object members) ∧ ∀ f ∈ stack, f.Sound
  | .done v => Canonical v

lemma sound_complete (hv : Canonical v) (hstack : ∀ f ∈ stack, f.Sound) :
    (complete v stack).Sound := by
  cases stack with
  | nil => exact hv
  | cons frame outer =>
    obtain ⟨hframe, houter⟩ := List.forall_mem_cons.1 hstack
    cases hframe with
    | array h =>
      cases h with
      | array h => exact ⟨.array (List.forall_mem_cons.2 ⟨hv, h⟩), houter⟩
    | object h name => exact ⟨h.insert hv, houter⟩

lemma sound_begin (hstack : ∀ f ∈ stack, f.Sound) (h : begin stack token = some next) :
    next.Sound := by
  cases token with
  | openBrace =>
    obtain rfl := Option.some.inj h
    exact ⟨.object .nil (by simp), hstack⟩
  | openBracket =>
    obtain rfl := Option.some.inj h
    exact ⟨.array (by simp), hstack⟩
  | null =>
    obtain rfl := Option.some.inj h
    exact sound_complete .null hstack
  | bool b =>
    obtain rfl := Option.some.inj h
    exact sound_complete (.bool b) hstack
  | string s =>
    obtain rfl := Option.some.inj h
    exact sound_complete (.string s) hstack
  | number text =>
    obtain rfl := Option.some.inj h
    exact sound_complete (canonical_ofNumeral text) hstack
  | _ => simp [begin] at h

lemma sound_readItem (hitems : Canonical (.array items)) (hstack : ∀ f ∈ stack, f.Sound)
    (h : readItem items stack token = some next) : next.Sound := by
  by_cases hclose : token = .closeBracket
  · subst hclose
    obtain rfl := Option.some.inj h
    cases hitems with
    | array hitems =>
      exact sound_complete (.array fun v hv => hitems v (List.mem_reverse.1 hv)) hstack
  · have hbegin : begin (.array items :: stack) token = some next := by
      cases token with
      | closeBracket => exact absurd rfl hclose
      | _ => exact h
    exact sound_begin (List.forall_mem_cons.2 ⟨.array hitems, hstack⟩) hbegin

lemma sound_readMember (hmembers : Canonical (.object members)) (hstack : ∀ f ∈ stack, f.Sound)
    (h : readMember members stack token = some next) : next.Sound := by
  cases token with
  | closeBrace =>
    obtain rfl := Option.some.inj h
    exact sound_complete hmembers hstack
  | string name | word name | number name =>
    obtain rfl := Option.some.inj h
    exact ⟨hmembers, hstack⟩
  | _ => simp [readMember] at h

lemma Sound.step (hreader : reader.Sound) (h : step reader token = some next) : next.Sound := by
  cases reader with
  | value stack => exact sound_begin hreader h
  | item items stack => exact sound_readItem hreader.1 hreader.2 h
  | afterItem items stack =>
    rw [Reader.step] at h
    split at h
    · obtain rfl := Option.some.inj h
      exact hreader
    · exact sound_readItem hreader.1 hreader.2 h
  | member members stack => exact sound_readMember hreader.1 hreader.2 h
  | afterMember members stack =>
    rw [Reader.step] at h
    split at h
    · obtain rfl := Option.some.inj h
      exact hreader
    · exact sound_readMember hreader.1 hreader.2 h
  | colon members name stack =>
    rw [Reader.step] at h
    split at h
    · obtain rfl := Option.some.inj h
      exact List.forall_mem_cons.2 ⟨.object hreader.1 name, hreader.2⟩
    · simp at h
  | done v => simp [Reader.step] at h

lemma Sound.run {tokens : List Token} (hreader : reader.Sound)
    (h : run reader tokens = some next) : next.Sound := by
  induction tokens generalizing reader with
  | nil =>
    obtain rfl := Option.some.inj h
    exact hreader
  | cons token tokens ih =>
    rw [Reader.run, List.foldlM_cons] at h
    obtain ⟨middle, hstep, hrun⟩ := Option.bind_eq_some_iff.1 h
    exact ih (hreader.step hstep) hrun

end Reader

/-- **A value that was read is canonical.** -/
lemma canonical_of_read? {s : Text} (h : read? s = some (some v)) : Canonical v := by
  rw [read?] at h
  obtain ⟨tokens, -, h⟩ := Option.bind_eq_some_iff.1 h
  split at h
  · simp at h
  · obtain ⟨reader, hrun, h⟩ := Option.bind_eq_some_iff.1 h
    have hinit : (Reader.value []).Sound := by simp [Reader.Sound]
    have hsound := hinit.run hrun
    cases reader with
    | done w =>
      obtain rfl : w = v := by simpa using h
      exact hsound
    | _ => simp at h

/-! ### Reading it again -/

lemma rereadItems_eq (items : List Json) : rereadItems items = items.map reread := by
  induction items with
  | nil => rfl
  | cons v items ih => rw [rereadItems, ih, List.map_cons]

lemma rereadMembers_eq (h : Ordered (read ++ members)) : rereadMembers read members =
    read ++ members.map fun (name, v) => (name, reread v) := by
  induction members generalizing read with
  | nil => rw [rereadMembers, List.map_nil, List.append_nil]
  | cons m members ih =>
    obtain ⟨name, v⟩ := m
    have hbefore : ∀ other ∈ read, other.1 < name := by
      intro other hother
      rw [Ordered, List.map_append, List.pairwise_append] at h
      exact h.2.2 other.1 (List.mem_map_of_mem hother) name (by simp)
    have hnext : Ordered (read ++ [(name, reread v)] ++ members) := by
      simpa [Ordered] using h
    rw [rereadMembers, insert_of_forall_lt hbefore, ih hnext]
    simp

lemma reread_object (h : Ordered members) :
    reread (.object members) = .object (members.map fun (name, v) => (name, reread v)) := by
  have hread : Ordered ([] ++ members) := h
  rw [reread, rereadMembers_eq hread, List.nil_append]

/-- A number of double precision in a value. -/
inductive Contains (x : Binary64) : Json → Prop
  | number : Contains x (.number (.double x))
  | item {items : List Json} {v : Json} (hv : v ∈ items) (h : Contains x v) :
    Contains x (.array items)
  | member {members : List (Text × Json)} {m : Text × Json} (hm : m ∈ members)
    (h : Contains x m.2) : Contains x (.object members)

/-- The text of a number is read as the number. -/
def ReadsBack (x : Binary64) : Prop := ofNumeral x.render = .number (.double x)

lemma map_eq_self_iff {α : Type} {f : α → α} {xs : List α} :
    xs.map f = xs ↔ ∀ x ∈ xs, f x = x := by
  have hid : xs.map f = xs ↔ xs.map f = xs.map id := by rw [List.map_id]
  rw [hid, List.map_inj_left]
  rfl

lemma contains_array_iff {x : Binary64} {items : List Json} :
    Contains x (.array items) ↔ ∃ v ∈ items, Contains x v := by
  constructor
  · rintro (_ | ⟨hv, h⟩)
    exact ⟨_, hv, h⟩
  · rintro ⟨v, hv, h⟩
    exact .item hv h

lemma contains_object_iff {x : Binary64} :
    Contains x (.object members) ↔ ∃ m ∈ members, Contains x m.2 := by
  constructor
  · rintro (_ | _ | ⟨hm, h⟩)
    exact ⟨_, hm, h⟩
  · rintro ⟨m, hm, h⟩
    exact .member hm h

lemma Canonical.reread_eq_iff (h : Canonical v) :
    reread v = v ↔ ∀ x, Contains x v → ReadsBack x := by
  induction h with
  | null => exact ⟨fun _ x hx => (nomatch hx), fun _ => rfl⟩
  | bool b => exact ⟨fun _ x hx => (nomatch hx), fun _ => rfl⟩
  | string s => exact ⟨fun _ x hx => (nomatch hx), fun _ => rfl⟩
  | integer hlow hhigh =>
    refine ⟨fun _ x hx => (nomatch hx), fun _ => ?_⟩
    rw [reread, Number.render, ofNumeral_integerText hlow hhigh]
  | double x =>
    rw [reread]
    constructor
    · rintro h _ ⟨⟩
      exact h
    · exact fun h => h x .number
  | @array items h ih =>
    have hitems : reread (.array items) = .array items ↔ ∀ v ∈ items, reread v = v := by
      rw [reread, rereadItems_eq, Json.array.injEq, map_eq_self_iff]
    simp only [hitems, contains_array_iff]
    constructor
    · rintro hreread x ⟨v, hv, hx⟩
      exact (ih v hv).1 (hreread v hv) x hx
    · intro hdoubles v hv
      exact (ih v hv).2 fun x hx => hdoubles x ⟨v, hv, hx⟩
  | @object members hordered h ih =>
    have hmembers : reread (.object members) = .object members ↔
        ∀ m ∈ members, reread m.2 = m.2 := by
      rw [reread_object hordered, Json.object.injEq, map_eq_self_iff]
      simp [Prod.ext_iff]
    simp only [hmembers, contains_object_iff]
    constructor
    · rintro hreread x ⟨m, hm, hx⟩
      exact (ih m hm).1 (hreread m hm) x hx
    · intro hdoubles m hm
      exact (ih m hm).2 fun x hx => hdoubles x ⟨m, hm, hx⟩

end Json

end LatexReview
