import Mathlib
import LatexReview.Proofs.Suppression.History
import LatexReview.Proofs.Suppression.LineByLine
import LatexReview.Proofs.Text.Lines

/-!
Blocks of suppression, one within another.

A directive that names a kind opens a block, and one without arguments closes the innermost
block. The record keeps no stack: what is closed is the kind with the last place. Since a
block within others has its place behind theirs, that is the innermost one.
-/

namespace LatexReview.Suppression

/-! ### Blocks and what they ask for -/

/-- The arguments of a directive name a module, a severity or a whitelist key, or nothing for
all problems of the lines. -/
inductive Names : List Text → Kind → Prop where
  | lines : Names [] .lines
  | module {qualifier : Text} (name : Text)
    (h : qualifier ∈ ["module".toList, "modules".toList]) : Names [qualifier, name] (.module name)
  | severity {qualifier value : Text} {severity : Severity}
    (h : qualifier ∈ ["severity".toList, "severities".toList])
    (hvalue : Severity.parse? value = some severity) :
    Names [qualifier, value] (.severity severity)
  | key {qualifier : Text} (key : Text)
    (h : qualifier ∈ ["whitelist-key".toList, "whitelist-keys".toList]) :
    Names [qualifier, key] (.key key)

/-- A line opens a block of a kind. -/
def Opens (text : Text) (kind : Kind) : Prop :=
  ∃ arguments, Command.ofLine? text = some ⟨"begin-ignore".toList, arguments⟩ ∧
    Names arguments kind

/-- A line closes a block, whatever its kind. -/
def Closes (text : Text) : Prop := Command.ofLine? text = some ⟨"end-ignore".toList, []⟩

/-- How many lines after it a line asks to ignore. -/
def nextCount? (text : Text) : Option UInt32 :=
  match (Command.ofLine? text).map Command.read with
  | some (.ok ⟨.next count, _⟩) => some count
  | _ => none

/-- A line neither opens nor closes a block: it asks for the next lines at most. -/
def Aside (text : Text) : Prop :=
  ∀ command reading, Command.ofLine? text = some command → command.read = .ok reading →
    ∃ count, reading.directive = .next count

/-- Lines with blocks in them, nested to any depth. -/
inductive Layout where
  | nil
  | aside (text : Text) (rest : Layout)
  | block (kind : Kind) (opening : Text) (body : Layout) (closing : Text) (rest : Layout)

/-- What the directives of a layout ask for, by the numbers of their lines. -/
inductive Demand where
  /-- The lines between those that open and close a block. -/
  | between (kind : Kind) (opening closing : ℕ)
  /-- Some lines after a directive. -/
  | next (line : ℕ) (count : UInt32)

/-- The suppression that does what is asked for. -/
def Demand.suppression : Demand → Suppression
  | between kind opening closing =>
    ⟨kind, Record.nextLine (.ofNat opening), some (Record.previousLine (.ofNat closing))⟩
  | next line count =>
    ⟨.lines, Record.nextLine (.ofNat line), some (Record.lineBelow (.ofNat line) count)⟩

namespace Layout

def lines : Layout → List Text
  | nil => []
  | aside text rest => text :: rest.lines
  | block _ opening body closing rest => opening :: (body.lines ++ closing :: rest.lines)

/-- A layout is well formed within blocks of some kinds: its blocks are of other kinds than
those around them, and there is none within a block of all problems. -/
def Fits (around : List Kind) : Layout → Prop
  | nil => True
  | aside text rest => Aside text ∧ rest.Fits around
  | block kind opening body closing rest =>
    Opens opening kind ∧ kind ∉ around ∧ .lines ∉ around ∧ body.Fits (kind :: around) ∧
      Closes closing ∧ rest.Fits around

/-- What a layout asks for, in the order of the lines, the first of which has a number. -/
def demands (first : ℕ) : Layout → List Demand
  | nil => []
  | aside text rest =>
    ((nextCount? text).map (.next first)).toList ++ rest.demands (first + 1)
  | block kind _ body _ rest =>
    .between kind first (first + 1 + body.lines.length) ::
      (body.demands (first + 1) ++ rest.demands (first + 1 + body.lines.length + 1))

end Layout

/-! ### One line -/

lemma kinds?_of_names {arguments : List Text} {kind : Kind} (h : Names arguments kind) :
    kinds? arguments = some ([kind], []) := by
  cases h with
  | lines => rfl
  | module name h =>
    rcases List.mem_pair.1 h with rfl | rfl <;> simp [kinds?]
  | severity h hvalue =>
    rcases List.mem_pair.1 h with rfl | rfl <;> simp [kinds?, hvalue]
  | key name h =>
    rcases List.mem_pair.1 h with rfl | rfl <;> simp [kinds?]

namespace Record

variable {r : Record} {kind : Kind} {line : UInt32} {text : Text}

lemma readLine_of_opens (h : Opens text kind) (hk : kind ∉ r.openKinds) :
    (r.readLine text line).1 = ⟨r.suppressions ++ [⟨kind, nextLine line, none⟩],
      r.openPlaces ++ [(kind, r.suppressions.length)]⟩ := by
  obtain ⟨arguments, hc, hnames⟩ := h
  have hread : Command.read ⟨"begin-ignore".toList, arguments⟩ = .ok ⟨.start [kind], []⟩ := by
    simp [Command.read, kinds?_of_names hnames]
  rw [readLine_of_read hc hread]
  exact start_of_not_mem hk

lemma readLine_of_closes (h : Closes text) : (r.readLine text line).1 = (r.stopLatest line).1 := by
  have hread : Command.read ⟨"end-ignore".toList, []⟩ = .ok ⟨.stopLatest, []⟩ := by
    simp [Command.read]
  rw [readLine_of_read h hread]
  rfl

lemma readLine_of_aside (h : Aside text) (n : ℕ) :
    (r.readLine text (.ofNat n)).1 = ⟨r.suppressions ++
      ((nextCount? text).map (Demand.next n)).toList.map Demand.suppression, r.openPlaces⟩ := by
  cases hc : Command.ofLine? text with
  | none => simp [readLine, nextCount?, hc]
  | some command =>
    cases hr : command.read with
    | error e => cases e <;> simp [readLine, nextCount?, hc, hr]
    | ok reading =>
      obtain ⟨count, hcount⟩ := h command reading hc hr
      obtain ⟨directive, unknown⟩ := reading
      obtain rfl : directive = .next count := hcount
      rw [readLine_of_read hc hr]
      simp [nextCount?, hc, hr, obey, Demand.suppression]

lemma stopLatest_block {after : List Suppression} {start : UInt32}
    (hr : r.Indexed) (hk : kind ∉ r.openKinds) (hlines : Kind.lines ∉ r.openKinds)
    (hblock : Indexed ⟨r.suppressions ++ ⟨kind, start, none⟩ :: after,
      r.openPlaces ++ [(kind, r.suppressions.length)]⟩) :
    (stopLatest ⟨r.suppressions ++ ⟨kind, start, none⟩ :: after,
      r.openPlaces ++ [(kind, r.suppressions.length)]⟩ line).1 =
      ⟨r.suppressions ++ ⟨kind, start, some (previousLine line)⟩ :: after, r.openPlaces⟩ := by
  set s : Record := ⟨r.suppressions ++ ⟨kind, start, none⟩ :: after,
    r.openPlaces ++ [(kind, r.suppressions.length)]⟩ with hs
  have hplace : s.place? kind = some r.suppressions.length :=
    hblock.mem_openPlaces.1 (by simp [hs])
  -- All other places are those of before, in front of the new one.
  have hle (k : Kind) (p : ℕ) (hp : s.place? k = some p) : p ≤ r.suppressions.length := by
    have hmem : (k, p) ∈ r.openPlaces ∨ (k, p) = (kind, r.suppressions.length) := by
      simpa [hs] using hblock.mem_openPlaces.2 hp
    rcases hmem with hmem | heq
    · obtain ⟨start, hstart⟩ := (hr.consistent k p).1 (hr.mem_openPlaces.1 hmem)
      exact (List.getElem?_eq_some_iff.1 hstart).1.le
    · exact (Prod.mk.inj heq).2.le
  have hlatest : s.latest? = some kind := by
    refine hblock.latest?_eq_some_iff.2 ⟨_, hplace, ?_⟩
    by_cases hkl : kind = .lines
    · exact .inl hkl
    · refine .inr ⟨not_mem_openKinds.1 fun hmem => ?_, hle⟩
      have hin : Kind.lines ∈ r.openKinds ∨ Kind.lines = kind := by
        simpa [hs, openKinds] using hmem
      exact hin.elim hlines fun h => hkl h.symm
  have hkeep : r.openPlaces.filter (·.1 ≠ kind) = r.openPlaces := by
    refine List.filter_eq_self.2 fun entry hentry => ?_
    have hne : entry.1 ≠ kind := fun h => hk (h ▸ List.mem_map_of_mem hentry)
    simpa using hne
  simp only [stopLatest, hlatest, stop, hplace, Record.mk.injEq]
  constructor
  · simp [hs, List.modify_eq_take_cons_drop]
  · rw [hs, List.filter_append, hkeep]
    simp

/-! ### All lines -/

lemma readLines_cons (r : Record) (first : ℕ) (text : Text) (lines : List Text) :
    (r.readLines first (text :: lines)).1 =
      ((r.readLine text (.ofNat first)).1.readLines (first + 1) lines).1 := rfl

lemma Indexed.readLines (h : r.Indexed) (first : ℕ) (lines : List Text) :
    (r.readLines first lines).1.Indexed := by
  induction lines generalizing r first with
  | nil => exact h
  | cons text lines ih => exact ih h.readLine (first + 1)

/-- **A layout** is read into the suppressions it asks for, and leaves nothing open. -/
lemma Indexed.readLines_layout (h : r.Indexed) {d : Layout} {around : List Kind}
    (hd : d.Fits around) (hopen : ∀ k, k ∈ r.openKinds ↔ k ∈ around) (first : ℕ) :
    (r.readLines first d.lines).1 =
      ⟨r.suppressions ++ (d.demands first).map Demand.suppression, r.openPlaces⟩ := by
  induction d generalizing r first around with
  | nil => simp [Layout.lines, Layout.demands, Record.readLines]
  | aside text rest ih =>
    obtain ⟨htext, hrest⟩ := hd
    have hline : Indexed (r.readLine text (.ofNat first)).1 := h.readLine
    have hread := readLine_of_aside (r := r) htext first
    rw [hread] at hline
    rw [Layout.lines, readLines_cons, hread, ih hline hrest hopen]
    simp [Layout.demands]
  | block kind opening body closing rest ihb ih =>
    obtain ⟨hopens, hkind, hlines, hbody, hcloses, hrest⟩ := hd
    have hk : kind ∉ r.openKinds := fun hm => hkind ((hopen kind).1 hm)
    have hl : Kind.lines ∉ r.openKinds := fun hm => hlines ((hopen .lines).1 hm)
    -- The opening line and the body.
    have hindexed : Indexed (r.readLine opening (.ofNat first)).1 := h.readLine
    have hstart : (r.readLine opening (.ofNat first)).1 = _ := readLine_of_opens hopens hk
    rw [hstart] at hindexed
    have hinside := ihb hindexed hbody
      (by simp [openKinds, ← hopen, or_comm]) (first + 1)
    have hblock := hindexed.readLines (first + 1) body.lines
    rw [hinside] at hblock
    -- The closing line and what follows.
    have hstop : ((r.readLines first (opening :: (body.lines ++ [closing]))).1) =
        ⟨r.suppressions ++
          (Demand.between kind first (first + 1 + body.lines.length)).suppression ::
            (body.demands (first + 1)).map Demand.suppression, r.openPlaces⟩ := by
      rw [readLines_cons, hstart, readLines_append, hinside, readLines_cons,
        readLine_of_closes hcloses]
      simp only [List.append_assoc, List.singleton_append] at hblock ⊢
      exact stopLatest_block h hk hl hblock
    have hdone := h.readLines first (opening :: (body.lines ++ [closing]))
    rw [hstop] at hdone
    have hsplit : (Layout.block kind opening body closing rest).lines =
        opening :: (body.lines ++ [closing]) ++ rest.lines := by simp [Layout.lines]
    rw [hsplit, readLines_append, hstop, ih hdone hrest hopen]
    simp [Layout.demands, Nat.add_assoc, Nat.add_comm, Nat.add_left_comm]

lemma lt_of_between_mem {d : Layout} {first opening closing : ℕ}
    (h : .between kind opening closing ∈ d.demands first) :
    first ≤ opening ∧ opening < closing := by
  induction d generalizing first with
  | nil => simp [Layout.demands] at h
  | aside text rest ih =>
    have hrest : .between kind opening closing ∈ rest.demands (first + 1) := by
      simpa [Layout.demands] using h
    have := ih hrest
    omega
  | block k text body text' rest ihb ih =>
    simp only [Layout.demands, List.mem_cons, List.mem_append, Demand.between.injEq] at h
    rcases h with ⟨-, rfl, rfl⟩ | hbody | hrest
    · omega
    · have := ihb hbody
      omega
    · have := ih hrest
      omega

/-- **Blocks are closed from the inside out**: a source whose directives lay out blocks, one
within another, has just the suppressions of the lines between those that open and close a
block, and of the next lines where these are asked for, and none of them stays open. -/
theorem ofSource_blocks {source : Text} {d : Layout} (hsource : source.lines = d.lines)
    (hd : d.Fits []) :
    (ofSource source).1 = ⟨(d.demands 1).map Demand.suppression, []⟩ ∧
      (∀ s ∈ (ofSource source).1.suppressions, s.stop ≠ none) ∧
      ∀ kind opening closing, .between kind opening closing ∈ d.demands 1 →
        closing < 2 ^ 32 → ∃ s ∈ (ofSource source).1.suppressions, s.kind = kind ∧
          s.start.toNat = opening + 1 ∧ ∃ stop, s.stop = some stop ∧ stop.toNat = closing - 1 := by
  have hrecord : (ofSource source).1 = ⟨(d.demands 1).map Demand.suppression, []⟩ := by
    rw [ofSource, hsource, indexed_empty.readLines_layout hd (by simp [empty, openKinds])]
    simp [empty]
  refine ⟨hrecord, ?_, ?_⟩
  · rw [hrecord]
    intro s hs
    obtain ⟨demand, -, rfl⟩ := List.mem_map.1 hs
    cases demand <;> simp [Demand.suppression]
  · intro kind opening closing hmem hsize
    rw [hrecord]
    obtain ⟨hfirst, hlt⟩ := lt_of_between_mem hmem
    have hopening : (UInt32.ofNat opening).toNat = opening :=
      UInt32.toNat_ofNat_of_lt' (by simp only [UInt32.size]; omega)
    have hclosing : (UInt32.ofNat closing).toNat = closing :=
      UInt32.toNat_ofNat_of_lt' (by simp only [UInt32.size]; omega)
    refine ⟨_, List.mem_map_of_mem hmem, rfl, ?_, _, rfl, ?_⟩
    · have hnext : (nextLine (.ofNat opening)).toNat = (UInt32.ofNat opening).toNat + 1 :=
        nextLine_toNat (by rw [hopening]; simp only [UInt32.size]; omega)
      rwa [hopening] at hnext
    · have hprevious : (previousLine (.ofNat closing)).toNat = (UInt32.ofNat closing).toNat - 1 :=
        previousLine_toNat (by omega)
      rwa [hclosing] at hprevious

/-- Warnings are ignored in all of it, findings of one module within that, and all findings
in one line. -/
def nestedSource : Text :=
  Text.ofLines (["% buddy begin-ignore severities warning", "% buddy ignore-next 2 lines",
    "% buddy begin-ignore modules Aspell", "% buddy begin-ignore", "word", "% buddy end-ignore",
    "% buddy end-ignore", "% buddy end-ignore"].map String.toList)

def nestedLayout : Layout :=
  .block (.severity .warning) "% buddy begin-ignore severities warning".toList
    (.aside "% buddy ignore-next 2 lines".toList
      (.block (.module "Aspell".toList) "% buddy begin-ignore modules Aspell".toList
        (.block .lines "% buddy begin-ignore".toList (.aside "word".toList .nil)
          "% buddy end-ignore".toList .nil)
        "% buddy end-ignore".toList .nil))
    "% buddy end-ignore".toList .nil

theorem ofSource_blocks_nested :
    nestedSource.lines = nestedLayout.lines ∧ nestedLayout.Fits [] ∧
      (ofSource nestedSource).1 = ⟨[⟨.severity .warning, 2, some 7⟩, ⟨.lines, 3, some 4⟩,
        ⟨.module "Aspell".toList, 4, some 6⟩, ⟨.lines, 5, some 5⟩], []⟩ := by
  have hsource : nestedSource.lines = nestedLayout.lines :=
    Text.lines_ofLines_eq (by decide) (by decide)
  have hends : Closes "% buddy end-ignore".toList := by unfold Closes; cbv
  have hwarning : Opens "% buddy begin-ignore severities warning".toList (.severity .warning) :=
    ⟨["severities".toList, "warning".toList], by cbv, .severity (by simp) (by decide)⟩
  have hmodule : Opens "% buddy begin-ignore modules Aspell".toList (.module "Aspell".toList) :=
    ⟨["modules".toList, "Aspell".toList], by cbv, .module _ (by simp)⟩
  have hlines : Opens "% buddy begin-ignore".toList .lines := ⟨[], by cbv, .lines⟩
  have hnext : Aside "% buddy ignore-next 2 lines".toList := by
    have hcommand : Command.ofLine? "% buddy ignore-next 2 lines".toList =
        some ⟨"ignore-next".toList, ["2".toList, "lines".toList]⟩ := by cbv
    have hread : Command.read ⟨"ignore-next".toList, ["2".toList, "lines".toList]⟩ =
        .ok ⟨.next 2, []⟩ := by cbv
    intro command reading hc hr
    obtain rfl := Option.some.inj (hcommand.symm.trans hc)
    obtain rfl := Except.ok.inj (hread.symm.trans hr)
    exact ⟨2, rfl⟩
  have hword : Aside "word".toList := by
    have hnone : Command.ofLine? "word".toList = none := by cbv
    intro command reading hc
    rw [hnone] at hc
    simp at hc
  have hfits : nestedLayout.Fits [] :=
    ⟨hwarning, by simp, by simp, ⟨hnext, hmodule, by simp, by simp,
      ⟨hlines, by simp, by simp, ⟨hword, trivial⟩, hends, trivial⟩, hends, trivial⟩, hends, trivial⟩
  refine ⟨hsource, hfits, ?_⟩
  rw [(ofSource_blocks hsource hfits).1]
  cbv

end Record

end LatexReview.Suppression
