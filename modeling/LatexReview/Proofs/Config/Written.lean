import Mathlib
import LatexReview.Proofs.Config.Form
import LatexReview.Proofs.Json.Canonical

/-!
Writing a configuration and reading it again.

A configuration that was read has fields of their forms. So what is written of it has the form
of a configuration and is read as the same fields, if it has an output directory. If it has
none, that is written as `null`, which the form does not take.
-/

namespace LatexReview.Config

open Json (Canonical Ordered)

variable {name : Text} {members : List (Text × Json)} {c : Config} {s : Text}

/-! ### What a configuration holds that was read -/

/-- The fields of a configuration are as they are read. -/
structure Sound (c : Config) : Prop where
  language : 1 ≤ c.language.length
  whitelist : 1 ≤ c.whitelist.length
  output : ∀ p, c.output = some p → 1 ≤ p.length
  timeout : 1 ≤ c.toolTimeoutSecs ∧ c.toolTimeoutSecs < UInt64.size
  ordered : Ordered c.modules
  settings : ∀ m ∈ c.modules, Setting (moduleJson m.2) ∧ Canonical (moduleJson m.2)
  selection : c.selection = .configured
  baseDir : c.baseDir = none

lemma Conforms.field_cases {α : Type} {form : Form} {value : Json → Except Mismatch α}
    {default a : α} (hconforms : Conforms (.object members)) (hform : (name, form) ∈ properties)
    (h : fieldOr members name value default = .ok a) :
    a = default ∨ ∃ v, (name, v) ∈ members ∧ form.Accepts v ∧ value v = .ok a := by
  rw [fieldOr] at h
  cases hv : members.lookup name with
  | none =>
    rw [hv] at h
    exact .inl (Except.ok.inj h).symm
  | some v =>
    rw [hv] at h
    exact .inr ⟨v, mem_of_lookup_eq_some hv, hconforms.accepts hform hv, h⟩

lemma length_of_stringValue {least : ℕ} {v : Json} {a : Text} (h : stringValue v = .ok a)
    (haccepts : (Form.string least).Accepts v) : least ≤ a.length := by
  cases haccepts with
  | @string _ s hs =>
    obtain rfl : s = a := Except.ok.inj h
    exact hs

lemma Conforms.length_of_fieldOr {default a : Text} (hconforms : Conforms (.object members))
    (hform : (name, Form.string 1) ∈ properties) (hdefault : 1 ≤ default.length)
    (h : fieldOr members name stringValue default = .ok a) : 1 ≤ a.length := by
  rcases hconforms.field_cases hform h with rfl | ⟨v, hv, haccepts, hvalue⟩
  · exact hdefault
  · exact length_of_stringValue hvalue haccepts

lemma bounds_of_wholeValue {v : Json} {n : ℕ} (h : wholeValue v = .ok n)
    (haccepts : (Form.integer 1).Accepts v) (hv : Canonical v) : 1 ≤ n ∧ n < UInt64.size := by
  cases haccepts with
  | @integer _ number k hvalue hleast =>
    cases hv with
    | double x => simp [wholeValue] at h
    | @integer m hlow hhigh =>
      have hcast : (m : ℚ) = k := hvalue
      have hmk : m = k := Int.cast_injective hcast
      have hpos : 0 ≤ m := by omega
      obtain rfl : m.toNat = n := by simpa [wholeValue, hpos] using h
      omega

lemma moduleJson_of_moduleValue {v : Json} {setting : ModuleOption}
    (h : moduleValue v = .ok setting) : moduleJson setting = v := by
  cases v with
  | bool b =>
    obtain rfl := Except.ok.inj h
    rfl
  | object members =>
    obtain rfl := Except.ok.inj h
    rfl
  | _ => simp [moduleValue] at h

lemma map_moduleJson_of_modulesValue {modules : List (Text × ModuleOption)}
    (h : modulesValue (.object members) = .ok modules) :
    modules.map (fun (name, setting) => (name, moduleJson setting)) = members := by
  rw [modulesValue] at h
  induction members generalizing modules with
  | nil =>
    obtain rfl : [] = modules := by simpa [pure, Except.pure] using h
    rfl
  | cons m members ih =>
    rw [List.mapM_cons, bind_eq_ok] at h
    obtain ⟨first, hfirst, h⟩ := h
    obtain ⟨rest, hrest, h⟩ := bind_eq_ok.1 h
    obtain rfl : first :: rest = modules := by simpa [pure, Except.pure] using h
    obtain ⟨setting, hsetting, hpair⟩ := bind_eq_ok.1 hfirst
    obtain rfl : (m.1, setting) = first := Except.ok.inj hpair
    rw [List.map_cons, ih hrest]
    dsimp only
    rw [moduleJson_of_moduleValue hsetting]

lemma settings_of_modulesValue {v : Json} {modules : List (Text × ModuleOption)}
    (h : modulesValue v = .ok modules) (haccepts : Form.modules.Accepts v) (hv : Canonical v) :
    Ordered modules ∧ ∀ m ∈ modules, Setting (moduleJson m.2) ∧ Canonical (moduleJson m.2) := by
  cases haccepts with
  | @modules members hsettings =>
    cases hv with
    | object hordered hvalues =>
      have hmap := map_moduleJson_of_modulesValue h
      refine ⟨?_, fun m hm => ?_⟩
      · rw [← hmap, Ordered, List.map_map] at hordered
        exact hordered
      · have hmember : (m.1, moduleJson m.2) ∈ members := by
          rw [← hmap]
          exact List.mem_map_of_mem (f := fun (name, setting) => (name, moduleJson setting)) hm
        exact ⟨hsettings _ hmember, hvalues _ hmember⟩

lemma sound_of_decoded (hmembers : Canonical (.object members))
    (hconforms : Conforms (.object members)) (h : Decoded members c) : Sound c := by
  have hcanonical : ∀ {name v}, (name, v) ∈ members → Canonical v := by
    intro name v hv
    cases hmembers with
    | object _ hvalues => exact hvalues (name, v) hv
  have hmodules : Ordered c.modules ∧
      ∀ m ∈ c.modules, Setting (moduleJson m.2) ∧ Canonical (moduleJson m.2) := by
    have hform : ("modules".toList, Form.modules) ∈ properties := by simp [properties]
    rcases hconforms.field_cases hform h.modules with hdefault | ⟨v, hv, haccepts, hvalue⟩
    · rw [hdefault]
      exact ⟨.nil, by simp⟩
    · exact settings_of_modulesValue hvalue haccepts (hcanonical hv)
  exact
    { language := hconforms.length_of_fieldOr (by simp [properties]) (by decide) h.language
      whitelist := hconforms.length_of_fieldOr (by simp [properties]) (by decide) h.whitelist
      output := by
        intro p hp
        have hform : ("output".toList, Form.string 1) ∈ properties := by simp [properties]
        rcases hconforms.field_cases hform h.output with hdefault | ⟨v, hv, haccepts, hvalue⟩
        · rw [hdefault] at hp
          simp at hp
        · cases ha : stringValue v with
          | error mismatch => simp [ha, hp] at hvalue
          | ok a =>
            obtain rfl : a = p := by simpa [ha, hp] using hvalue
            exact length_of_stringValue ha haccepts
      timeout := by
        have hform : ("toolTimeoutSecs".toList, Form.integer 1) ∈ properties := by simp [properties]
        rcases hconforms.field_cases hform h.toolTimeoutSecs with
          hdefault | ⟨v, hv, haccepts, hvalue⟩
        · rw [hdefault]
          decide
        · exact bounds_of_wholeValue hvalue haccepts (hcanonical hv)
      ordered := hmodules.1
      settings := hmodules.2
      selection := h.selection
      baseDir := h.baseDir }

lemma sound_of_ofText (h : ofText s = .ok c) : Sound c := by
  obtain ⟨members, ⟨document, hread, hmembers⟩, hconforms, hdecoded⟩ := ofText_eq_ok_iff.1 h
  refine sound_of_decoded ?_ hconforms hdecoded
  cases document with
  | none =>
    obtain rfl : [] = members := by simpa using hmembers
    exact .object .nil (by simp)
  | some v =>
    obtain rfl : v = .object members := by simpa using hmembers
    exact Json.canonical_of_read? hread

/-! ### What is read of the written form -/

/-- Settings after they are written and read. -/
def rereadSetting : ModuleOption → ModuleOption
  | .enabled flag => .enabled flag
  | .options members => .options (members.map fun (name, v) => (name, v.reread))

/-- A configuration after it is written and read. -/
def reread (c : Config) : Config :=
  { c with modules := c.modules.map fun (name, setting) => (name, rereadSetting setting) }

/-- The members of the written form, in the order in which they are read. -/
def writtenMembers (c : Config) : List (Text × Json) :=
  [("enableModulesByDefault".toList, .bool c.enableModulesByDefault),
    ("language".toList, .string c.language),
    ("modules".toList,
      .object (c.modules.map fun (name, setting) => (name, moduleJson (rereadSetting setting)))),
    ("output".toList, match c.output with
      | some p => .string p
      | none => .null),
    ("toolTimeoutSecs".toList, .nat c.toolTimeoutSecs),
    ("whitelist".toList, .string c.whitelist)]

lemma reread_moduleJson {setting : ModuleOption} (h : Canonical (moduleJson setting)) :
    (moduleJson setting).reread = moduleJson (rereadSetting setting) := by
  cases setting with
  | enabled flag => rfl
  | options members =>
    cases h with
    | object hordered _ => exact Json.reread_object hordered

lemma reread_toJson (h : Sound c) : c.toJson.reread = .object (writtenMembers c) := by
  have htimeout : Json.ofNumeral (Json.Number.integer c.toolTimeoutSecs).render =
      .nat c.toolTimeoutSecs := by
    have hhigh := h.timeout.2
    exact Json.ofNumeral_integerText (by omega) (by exact_mod_cast hhigh)
  have hmodules : Json.reread
      (.object (c.modules.map fun (name, setting) => (name, moduleJson setting))) =
        .object (c.modules.map fun (name, setting) =>
          (name, moduleJson (rereadSetting setting))) := by
    have hordered : Ordered (c.modules.map fun (name, setting) => (name, moduleJson setting)) := by
      rw [Ordered, List.map_map]
      exact h.ordered
    rw [Json.reread_object hordered, List.map_map]
    refine congrArg Json.object (List.map_congr_left fun m hm => ?_)
    exact Prod.ext rfl (reread_moduleJson (h.settings m hm).2)
  have houtput : ∀ output : Option Path, Json.reread (match output with
      | some p => .string p
      | none => .null) = match output with
      | some p => .string p
      | none => .null := by
    intro output
    cases output <;> rfl
  have hinsert : c.toJson.reread = .object (Json.insert "modules".toList
      (Json.reread (.object (c.modules.map fun (name, setting) => (name, moduleJson setting))))
      (Json.insert "toolTimeoutSecs".toList
        (Json.ofNumeral (Json.Number.integer c.toolTimeoutSecs).render)
      (Json.insert "enableModulesByDefault".toList (.bool c.enableModulesByDefault)
      (Json.insert "output".toList (Json.reread (match c.output with
        | some p => .string p
        | none => .null))
      (Json.insert "whitelist".toList (.string c.whitelist)
      (Json.insert "language".toList (.string c.language) [])))))) := rfl
  rw [hinsert, hmodules, htimeout, houtput]
  rfl

lemma read?_toJson (h : Sound c) :
    Json.read? c.toJson.compact = some (some (.object (writtenMembers c))) := by
  rw [Json.read?_compact, reread_toJson h]

lemma lookup_map_reread (name : Text) (members : List (Text × Json)) :
    (members.map fun (name, v) => (name, Json.reread v)).lookup name =
      (members.lookup name).map Json.reread := by
  induction members with
  | nil => rfl
  | cons m members ih =>
    rw [List.map_cons, List.lookup_cons, List.lookup_cons, ih]
    cases name == m.1 <;> rfl

lemma setting_rereadSetting {setting : ModuleOption} (h : Setting (moduleJson setting)) :
    Setting (moduleJson (rereadSetting setting)) := by
  cases setting with
  | enabled flag => exact .flag flag
  | options members =>
    cases h with
    | options h =>
      refine .options fun v hv => ?_
      rw [lookup_map_reread, Option.map_eq_some_iff] at hv
      obtain ⟨old, hold, rfl⟩ := hv
      obtain ⟨b, rfl⟩ := h old hold
      exact ⟨b, rfl⟩

lemma accepts_modules (h : Sound c) :
    Form.modules.Accepts (.object
      (c.modules.map fun (name, setting) => (name, moduleJson (rereadSetting setting)))) := by
  refine .modules fun m hm => ?_
  obtain ⟨original, horiginal, rfl⟩ := List.mem_map.1 hm
  exact setting_rereadSetting (h.settings original horiginal).1

lemma accepts_timeout (h : Sound c) : (Form.integer 1).Accepts (.nat c.toolTimeoutSecs) :=
  .integer (k := c.toolTimeoutSecs) rfl (by exact_mod_cast h.timeout.1)

lemma conforms_writtenMembers {p : Path} (h : Sound c) (hp : c.output = some p) :
    Conforms (.object (writtenMembers c)) := by
  refine .object fun m hm => ?_
  rw [writtenMembers, hp] at hm
  simp only [List.mem_cons, List.not_mem_nil, or_false] at hm
  rcases hm with rfl | rfl | rfl | rfl | rfl | rfl
  · exact ⟨.boolean, by simp [properties], .boolean _⟩
  · exact ⟨.string 1, by simp [properties], .string h.language⟩
  · exact ⟨.modules, by simp [properties], accepts_modules h⟩
  · exact ⟨.string 1, by simp [properties], .string (h.output p hp)⟩
  · exact ⟨.integer 1, by simp [properties], accepts_timeout h⟩
  · exact ⟨.string 1, by simp [properties], .string h.whitelist⟩

lemma moduleValue_moduleJson (setting : ModuleOption) :
    moduleValue (moduleJson setting) = .ok setting := by
  cases setting <;> rfl

lemma modulesValue_map (modules : List (Text × ModuleOption)) :
    modulesValue (.object (modules.map fun (name, setting) => (name, moduleJson setting))) =
      .ok modules := by
  rw [modulesValue]
  induction modules with
  | nil => rfl
  | cons m modules ih =>
    rw [List.map_cons, List.mapM_cons]
    dsimp only
    rw [ih, moduleValue_moduleJson]
    rfl

lemma decoded_writtenMembers {p : Path} (h : Sound c) (hp : c.output = some p) :
    Decoded (writtenMembers c) c.reread := by
  have hmodules := modulesValue_map c.reread.modules
  rw [reread, List.map_map] at hmodules
  have houtput : fieldOr (writtenMembers c) "output".toList (fun v => some <$> stringValue v)
      ({} : Config).output = .ok c.output := by
    rw [writtenMembers, hp]
    rfl
  exact ⟨rfl, rfl, houtput, rfl, rfl, hmodules, h.selection, h.baseDir⟩

lemma ofText_toJson_of_output {p : Path} (h : Sound c) (hp : c.output = some p) :
    ofText c.toJson.compact = .ok c.reread :=
  ofText_eq_ok_iff.2 ⟨writtenMembers c, ⟨_, read?_toJson h, rfl⟩, conforms_writtenMembers h hp,
    decoded_writtenMembers h hp⟩

lemma violation?_cons {v : Json} {form : Form} (hform : (name, form) ∈ properties)
    (haccepts : form.Accepts v) (rest : List (Text × Json)) :
    violation? (.object ((name, v) :: rest)) = violation? (.object rest) := by
  have hnone : memberViolation? name v = none :=
    memberViolation?_eq_none_iff.2 ⟨form, hform, haccepts⟩
  rw [violation?, List.findSome?_cons]
  dsimp only
  rw [hnone]
  rfl

lemma ofText_toJson_of_output_eq_none (h : Sound c) (hnone : c.output = none) :
    ofText c.toJson.compact =
      .error (.invalid ⟨.wrongType .null .string, ["output".toList]⟩) := by
  have hviolation : violation? (.object (writtenMembers c)) =
      some ⟨.wrongType .null .string, ["output".toList]⟩ := by
    rw [writtenMembers, hnone, violation?_cons (by simp [properties]) (.boolean _),
      violation?_cons (by simp [properties]) (.string h.language),
      violation?_cons (by simp [properties]) (accepts_modules h)]
    rfl
  simp only [ofText, read?_toJson h, Option.getD_some, hviolation]

/-- Settings whose numbers of double precision are read as they are written. -/
def Steady (c : Config) : Prop :=
  ∀ m ∈ c.modules, ∀ x, Json.Contains x (moduleJson m.2) → Json.ReadsBack x

lemma moduleJson_injective : Function.Injective moduleJson := fun a b h =>
  Except.ok.inj ((moduleValue_moduleJson a).symm.trans (h ▸ moduleValue_moduleJson b))

lemma reread_eq_self_iff (h : Sound c) : c.reread = c ↔ Steady c := by
  have hmodules : c.reread = c ↔
      (c.modules.map fun (name, setting) => (name, rereadSetting setting)) = c.modules := by
    constructor
    · exact congrArg Config.modules
    · intro hmodules
      rw [reread, hmodules]
  rw [hmodules, Json.map_eq_self_iff]
  refine forall₂_congr fun m hm => ?_
  have hcanonical := (h.settings m hm).2
  rw [← hcanonical.reread_eq_iff, reread_moduleJson hcanonical, moduleJson_injective.eq_iff]
  simp [Prod.ext_iff]

/-- **Writing a configuration and reading it again.** A configuration that was read is read
again from its written form just when it has a directory for results. The fields are then the
same just when the numbers in the settings of modules are read as they are written. -/
theorem ofText_toJson (h : ofText s = .ok c) :
    (c.output = none → ofText c.toJson.compact =
      .error (.invalid ⟨.wrongType .null .string, ["output".toList]⟩)) ∧
    (c.output ≠ none → ofText c.toJson.compact = .ok c.reread) ∧
    (c.reread = c ↔ Steady c) := by
  have hsound := sound_of_ofText h
  refine ⟨ofText_toJson_of_output_eq_none hsound, fun houtput => ?_, reread_eq_self_iff hsound⟩
  obtain ⟨p, hp⟩ := Option.ne_none_iff_exists'.1 houtput
  exact ofText_toJson_of_output hsound hp

/-- A directory for results, and a module with a number among its options. -/
def tunedText : Text :=
  "\x7b\"output\": \"out\", \"modules\": \x7b\"Aspell\": \x7b\"weight\": 5.0\x7d\x7d\x7d".toList

def tuned : Config :=
  { output := some "out".toList
    modules := [("Aspell".toList, .options [("weight".toList, .number (.double ⟨false, 5⟩))])] }

lemma ofText_tunedText : ofText tunedText = .ok tuned := by
  have htokens : Json.tokens? tunedText =
      some [.openBrace, .string "output".toList, .colon, .string "out".toList, .comma,
        .string "modules".toList, .colon, .openBrace, .string "Aspell".toList, .colon, .openBrace,
        .string "weight".toList, .colon, .number "5.0".toList, .closeBrace, .closeBrace,
        .closeBrace] := by
    decide +kernel
  have hread : Json.read? tunedText = some (some (.object
      [("modules".toList, .object [("Aspell".toList,
          .object [("weight".toList, .number (.double ⟨false, 5⟩))])]),
        ("output".toList, .string "out".toList)])) := by
    rw [Json.read?, htokens, ← ofNumeral_fiveSeconds]
    rfl
  rw [ofText, hread]
  rfl

lemma steady_tuned : Steady tuned := by
  intro m hm x hx
  rw [List.mem_singleton.1 hm] at hx
  cases hx with
  | member hm hx =>
    rw [List.mem_singleton.1 hm] at hx
    cases hx with
    | number =>
      have hrender : Binary64.render ⟨false, 5⟩ = "5.0".toList := by decide +kernel
      rw [Json.ReadsBack, hrender, ofNumeral_fiveSeconds]

theorem ofText_toJson_tuned : ofText tunedText = .ok tuned ∧
    ofText tuned.toJson.compact = .ok tuned := by
  obtain ⟨-, hwritten, hself⟩ := ofText_toJson ofText_tunedText
  refine ⟨ofText_tunedText, ?_⟩
  rw [hwritten (by simp [tuned]), hself.2 steady_tuned]

/-- **The default configuration is not read from its written form**, although it is read from
an empty object. -/
theorem default_refused : ofText "\x7b\x7d".toList = .ok {} ∧
    ofText (toJson {}).compact =
      .error (.invalid ⟨.wrongType .null .string, ["output".toList]⟩) := by
  have hdefault : ofText "\x7b\x7d".toList = .ok {} := rfl
  exact ⟨hdefault, ofText_toJson_of_output_eq_none (sound_of_ofText hdefault) rfl⟩

end LatexReview.Config
