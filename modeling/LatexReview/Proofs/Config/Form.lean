import Mathlib
import LatexReview.Config.Reader
import LatexReview.Proofs.Basic

/-!
The form of a configuration, as a relation, and what can be read of a value that has it.

The first violation of a value tells whether it has the form at all. A value of the form is
read, unless its timeout is no integer of 64 bits but a number of double precision: that is an
integer by its value, and so of the form, and yet it is refused.
-/

namespace LatexReview.Config

variable {name : Text} {v : Json} {form : Form} {members : List (Text × Json)} {c : Config}

/-! ### The form -/

/-- The settings of a module are a flag, or options in which `enabled`, if it is there, is one. -/
inductive Setting : Json → Prop where
  | flag (b : Bool) : Setting (.bool b)
  | options {members : List (Text × Json)}
    (h : ∀ v, members.lookup "enabled".toList = some v → ∃ b, v = .bool b) :
    Setting (.object members)

/-- The values of a form. A number is an integer by its value, however it is written. -/
inductive Form.Accepts : Form → Json → Prop where
  | string {least : ℕ} {s : Text} (h : least ≤ s.length) : Accepts (.string least) (.string s)
  | boolean (b : Bool) : Accepts .boolean (.bool b)
  | integer {least : ℕ} {n : Json.Number} {k : ℤ} (hvalue : numberValue n = k)
    (h : (least : ℤ) ≤ k) : Accepts (.integer least) (.number n)
  | modules {members : List (Text × Json)} (h : ∀ m ∈ members, Setting m.2) :
    Accepts .modules (.object members)

/-- The values that have the form of a configuration: objects of known members, each one of its
form. -/
inductive Conforms : Json → Prop where
  | object {members : List (Text × Json)}
    (h : ∀ m ∈ members, ∃ form, (m.1, form) ∈ properties ∧ form.Accepts m.2) :
    Conforms (.object members)

lemma isModuleSetting_iff : isModuleSetting v ↔ Setting v := by
  constructor
  · intro h
    cases v with
    | bool b => exact .flag b
    | object members =>
      refine .options fun v hv => ?_
      rw [isModuleSetting, hv] at h
      cases v with
      | bool b => exact ⟨b, rfl⟩
      | _ => simp at h
    | _ => simp [isModuleSetting] at h
  · intro h
    cases h with
    | flag b => rfl
    | @options members h =>
      rw [isModuleSetting]
      cases hv : members.lookup "enabled".toList with
      | none => rfl
      | some v =>
        obtain ⟨b, rfl⟩ := h v hv
        rfl

lemma isInteger_iff {n : Json.Number} : isInteger n ↔ ∃ k : ℤ, numberValue n = k := by
  cases n with
  | integer k => exact ⟨fun _ => ⟨k, rfl⟩, fun _ => rfl⟩
  | double x =>
    have hden : (numberValue (.double x)).den = x.magnitude.den := by
      rw [numberValue]
      split
      · exact Rat.neg_den _
      · rfl
    rw [isInteger, decide_eq_true_iff, ← hden]
    constructor
    · intro h
      exact ⟨(numberValue (.double x)).num, ((Rat.den_eq_one_iff _).1 h).symm⟩
    · rintro ⟨k, hk⟩
      rw [hk]
      exact Rat.den_intCast k

lemma accepts_integer_iff {least : ℕ} {n : Json.Number} :
    (Form.integer least).Accepts (.number n) ↔ isInteger n ∧ ¬ numberValue n < least := by
  constructor
  · intro h
    cases h with
    | integer hvalue h =>
      refine ⟨isInteger_iff.2 ⟨_, hvalue⟩, ?_⟩
      rw [hvalue, not_lt]
      exact_mod_cast h
  · rintro ⟨hinteger, hleast⟩
    obtain ⟨k, hk⟩ := isInteger_iff.1 hinteger
    rw [hk, not_lt] at hleast
    exact .integer hk (by exact_mod_cast hleast)

lemma Form.violation?_eq_none_iff : form.violation? v = none ↔ form.Accepts v := by
  cases form with
  | string least =>
    cases v with
    | string s =>
      rw [Form.violation?]
      constructor
      · intro h
        exact .string (Nat.le_of_not_lt fun hlt => by simp [hlt] at h)
      · intro h
        cases h with
        | string h => rw [if_neg (Nat.not_lt.2 h)]
    | _ => exact ⟨fun h => by simp [Form.violation?] at h, fun h => by cases h⟩
  | boolean =>
    cases v with
    | bool b => exact ⟨fun _ => .boolean b, fun _ => rfl⟩
    | _ => exact ⟨fun h => by simp [Form.violation?] at h, fun h => by cases h⟩
  | integer least =>
    cases v with
    | number n =>
      rw [accepts_integer_iff, Form.violation?]
      by_cases hinteger : isInteger n = true
      · by_cases hleast : numberValue n < least
        · simp [hinteger, hleast]
        · simp [hinteger, hleast]
      · simp [hinteger]
    | _ => exact ⟨fun h => by simp [Form.violation?] at h, fun h => by cases h⟩
  | modules =>
    cases v with
    | object members =>
      rw [Form.violation?, Option.map_eq_none_iff, List.find?_eq_none]
      constructor
      · intro h
        refine .modules fun m hm => isModuleSetting_iff.1 ?_
        simpa using h m hm
      · intro h
        cases h with
        | modules h => exact fun m hm => by simpa using isModuleSetting_iff.2 (h m hm)
    | _ => exact ⟨fun h => by simp [Form.violation?] at h, fun h => by cases h⟩

lemma lookup_properties : properties.lookup name = some form ↔ (name, form) ∈ properties := by
  have hnodup : (properties.map (·.1)).Nodup := by decide
  exact lookup_eq_some_iff_mem hnodup

lemma memberViolation?_eq_none_iff :
    memberViolation? name v = none ↔ ∃ form, (name, form) ∈ properties ∧ form.Accepts v := by
  rw [memberViolation?]
  cases hlookup : properties.lookup name with
  | none =>
    have habsent : ∀ form, (name, form) ∉ properties := by
      intro form hm
      simp [lookup_properties.2 hm] at hlookup
    simp [habsent]
  | some form =>
    rw [Option.map_eq_none_iff, Form.violation?_eq_none_iff]
    constructor
    · intro h
      exact ⟨form, lookup_properties.1 hlookup, h⟩
    · rintro ⟨other, hm, h⟩
      obtain rfl : form = other := by simpa [hlookup] using lookup_properties.2 hm
      exact h

/-- **A value has no violation** just when it has the form of a configuration. -/
lemma violation?_eq_none_iff : violation? v = none ↔ Conforms v := by
  cases v with
  | object members =>
    rw [violation?, List.findSome?_eq_none_iff]
    constructor
    · intro h
      exact .object fun m hm => memberViolation?_eq_none_iff.1 (h m hm)
    · rintro ⟨h⟩ m hm
      exact memberViolation?_eq_none_iff.2 (h m hm)
  | _ => exact ⟨fun h => by simp [violation?] at h, fun h => by cases h⟩

lemma Conforms.accepts (h : Conforms (.object members)) (hform : (name, form) ∈ properties)
    (hv : members.lookup name = some v) : form.Accepts v := by
  obtain ⟨h⟩ := h
  obtain ⟨other, hother, haccepts⟩ := h (name, v) (mem_of_lookup_eq_some hv)
  obtain rfl : other = form :=
    Option.some.inj ((lookup_properties.2 hother).symm.trans (lookup_properties.2 hform))
  exact haccepts

/-! ### Reading the fields -/

/-- What the fields of a configuration are read from. -/
structure Decoded (members : List (Text × Json)) (c : Config) : Prop where
  language : fieldOr members "language".toList stringValue ({} : Config).language = .ok c.language
  whitelist :
    fieldOr members "whitelist".toList stringValue ({} : Config).whitelist = .ok c.whitelist
  output : fieldOr members "output".toList (fun v => some <$> stringValue v) ({} : Config).output =
    .ok c.output
  enableModulesByDefault : fieldOr members "enableModulesByDefault".toList boolValue
    ({} : Config).enableModulesByDefault = .ok c.enableModulesByDefault
  toolTimeoutSecs : fieldOr members "toolTimeoutSecs".toList wholeValue
    ({} : Config).toolTimeoutSecs = .ok c.toolTimeoutSecs
  modules : fieldOr members "modules".toList modulesValue ({} : Config).modules = .ok c.modules
  selection : c.selection = .configured
  baseDir : c.baseDir = none

lemma decode_eq_ok_iff : decode members = .ok c ↔ Decoded members c := by
  constructor
  · intro h
    simp only [decode, bind_eq_ok] at h
    obtain ⟨language, hlanguage, whitelist, hwhitelist, output, houtput, enable, henable, timeout,
      htimeout, modules, hmodules, h⟩ := h
    obtain rfl := Except.ok.inj h
    exact ⟨hlanguage, hwhitelist, houtput, henable, htimeout, hmodules, rfl, rfl⟩
  · rintro ⟨hlanguage, hwhitelist, houtput, henable, htimeout, hmodules, hselection, hbase⟩
    simp only [decode, bind_eq_ok]
    refine ⟨_, hlanguage, _, hwhitelist, _, houtput, _, henable, _, htimeout, _, hmodules, ?_⟩
    rw [← hselection, ← hbase]
    rfl

lemma exists_fieldOr {α : Type} {value : Json → Except Mismatch α} (default : α)
    (h : ∀ v, members.lookup name = some v → ∃ a, value v = .ok a) :
    ∃ a, fieldOr members name value default = .ok a := by
  rw [fieldOr]
  cases hv : members.lookup name with
  | none => exact ⟨default, rfl⟩
  | some v => exact h v hv

lemma exists_stringValue {least : ℕ} (h : (Form.string least).Accepts v) :
    ∃ s, stringValue v = .ok s := by
  cases h with
  | @string _ s _ => exact ⟨s, rfl⟩

lemma exists_some_stringValue {least : ℕ} (h : (Form.string least).Accepts v) :
    ∃ p, (some <$> stringValue v) = .ok p := by
  obtain ⟨s, hs⟩ := exists_stringValue h
  exact ⟨some s, by rw [hs]; rfl⟩

lemma exists_boolValue (h : Form.boolean.Accepts v) : ∃ b, boolValue v = .ok b := by
  cases h with
  | boolean b => exact ⟨b, rfl⟩

lemma exists_moduleValue (h : Setting v) : ∃ setting, moduleValue v = .ok setting := by
  cases h with
  | flag b => exact ⟨.enabled b, rfl⟩
  | @options members h => exact ⟨.options members, rfl⟩

lemma exists_modulesValue (h : Form.modules.Accepts v) : ∃ ms, modulesValue v = .ok ms := by
  cases h with
  | @modules members hsettings =>
    obtain ⟨ms, hms, -⟩ := exists_mapM_map
      (f := fun m : Text × Json => do return (m.1, ← moduleValue m.2)) (g := id)
      (R := fun m z => moduleValue m.2 = .ok z.2) fun m (hm : m ∈ members) => by
        obtain ⟨setting, hsetting⟩ := exists_moduleValue (hsettings m hm)
        exact ⟨(m.1, setting), by rw [id, hsetting]; rfl, hsetting⟩
    rw [List.map_id] at hms
    exact ⟨ms, hms⟩

lemma exists_wholeValue {least : ℕ} (h : (Form.integer least).Accepts v)
    (hdouble : ∀ x, v ≠ .number (.double x)) : ∃ n, wholeValue v = .ok n := by
  cases h with
  | @integer _ n k hvalue hleast =>
    cases n with
    | double x => exact absurd rfl (hdouble x)
    | integer m =>
      have hcast : (m : ℚ) = k := hvalue
      have hmk : m = k := Int.cast_injective hcast
      have hpos : 0 ≤ m := by omega
      exact ⟨m.toNat, if_pos hpos⟩

/-! ### Reading a configuration -/

/-- The timeout is a number of double precision: one with a point or an exponent, or one that
64 bits do not hold. -/
def DoubleTimeout (members : List (Text × Json)) (x : Binary64) : Prop :=
  members.lookup "toolTimeoutSecs".toList = some (.number (.double x))

lemma fieldOr_doubleTimeout {x : Binary64} (h : DoubleTimeout members x) (default : ℕ) :
    fieldOr members "toolTimeoutSecs".toList wholeValue default =
      .error ⟨.number (.double x), "u64".toList⟩ := by
  rw [fieldOr, h]
  rfl

lemma Conforms.exists_fieldOr {α : Type} {value : Json → Except Mismatch α}
    (h : Conforms (.object members)) (hform : (name, form) ∈ properties)
    (hvalue : ∀ v, form.Accepts v → ∃ a, value v = .ok a) (default : α) :
    ∃ a, fieldOr members name value default = .ok a :=
  Config.exists_fieldOr default fun v hv => hvalue v (h.accepts hform hv)

lemma decode_of_conforms (h : Conforms (.object members)) :
    ((∃ c, decode members = .ok c) ∧ ∀ x, ¬ DoubleTimeout members x) ∨
      ∃ x, DoubleTimeout members x ∧
        decode members = .error ⟨.number (.double x), "u64".toList⟩ := by
  obtain ⟨language, hlanguage⟩ := h.exists_fieldOr
    (show ("language".toList, Form.string 1) ∈ properties by simp [properties])
    (fun _ => exists_stringValue) ({} : Config).language
  obtain ⟨whitelist, hwhitelist⟩ := h.exists_fieldOr
    (show ("whitelist".toList, Form.string 1) ∈ properties by simp [properties])
    (fun _ => exists_stringValue) ({} : Config).whitelist
  obtain ⟨output, houtput⟩ := h.exists_fieldOr
    (show ("output".toList, Form.string 1) ∈ properties by simp [properties])
    (fun _ => exists_some_stringValue) ({} : Config).output
  obtain ⟨enable, henable⟩ := h.exists_fieldOr
    (show ("enableModulesByDefault".toList, Form.boolean) ∈ properties by simp [properties])
    (fun _ => exists_boolValue) ({} : Config).enableModulesByDefault
  obtain ⟨modules, hmodules⟩ := h.exists_fieldOr
    (show ("modules".toList, Form.modules) ∈ properties by simp [properties])
    (fun _ => exists_modulesValue) ({} : Config).modules
  by_cases hdouble : ∃ x, DoubleTimeout members x
  · obtain ⟨x, hx⟩ := hdouble
    refine Or.inr ⟨x, hx, ?_⟩
    rw [decode, hlanguage, hwhitelist, houtput, henable, fieldOr_doubleTimeout hx]
    rfl
  · rw [not_exists] at hdouble
    obtain ⟨timeout, htimeout⟩ : ∃ n, fieldOr members "toolTimeoutSecs".toList wholeValue
        ({} : Config).toolTimeoutSecs = .ok n := by
      have htype : ("toolTimeoutSecs".toList, Form.integer 1) ∈ properties := by simp [properties]
      refine Config.exists_fieldOr _ fun v hv => exists_wholeValue (h.accepts htype hv) ?_
      rintro x rfl
      exact hdouble x hv
    let c : Config :=
      { language := language, whitelist := whitelist, output := output
        enableModulesByDefault := enable, toolTimeoutSecs := timeout, modules := modules }
    have hdecoded : Decoded members c :=
      ⟨hlanguage, hwhitelist, houtput, henable, htimeout, hmodules, rfl, rfl⟩
    exact Or.inl ⟨⟨c, decode_eq_ok_iff.2 hdecoded⟩, hdouble⟩

/-! ### Texts -/

/-- A document that holds members. An empty one holds none. -/
def Holds (s : Text) (members : List (Text × Json)) : Prop :=
  ∃ document, Json.read? s = some document ∧ document.getD (.object []) = .object members

variable {s : Text}

lemma ofText_of_conforms (hs : Holds s members) (h : Conforms (.object members)) :
    ofText s = (decode members).mapError .mistyped := by
  obtain ⟨document, hread, hmembers⟩ := hs
  have hvalid : violation? (.object members) = none := violation?_eq_none_iff.2 h
  simp only [ofText, hread, hmembers, hvalid]
  cases decode members <;> rfl

lemma ofText_cases (s : Text) :
    ofText s = .error .malformed ∨ (∃ violation, ofText s = .error (.invalid violation)) ∨
      ∃ members, Holds s members ∧ Conforms (.object members) := by
  cases hread : Json.read? s with
  | none => exact Or.inl (by simp only [ofText, hread])
  | some document =>
    cases hviolation : violation? (document.getD (.object [])) with
    | some violation =>
      exact Or.inr (Or.inl ⟨violation, by simp only [ofText, hread, hviolation]⟩)
    | none =>
      have hconforms := violation?_eq_none_iff.1 hviolation
      obtain ⟨members, hmembers⟩ : ∃ members, document.getD (.object []) = .object members := by
        generalize document.getD (.object []) = v at hconforms
        cases hconforms with
        | @object members h => exact ⟨members, rfl⟩
      exact Or.inr (Or.inr ⟨members, ⟨document, hread, hmembers⟩, hmembers ▸ hconforms⟩)

lemma ofText_eq_ok_iff : ofText s = .ok c ↔
    ∃ members, Holds s members ∧ Conforms (.object members) ∧ Decoded members c := by
  constructor
  · intro h
    rcases ofText_cases s with hmalformed | ⟨violation, hinvalid⟩ | ⟨members, hs, hconforms⟩
    · rw [hmalformed] at h
      simp at h
    · rw [hinvalid] at h
      simp at h
    · rw [ofText_of_conforms hs hconforms] at h
      cases hdecode : decode members with
      | error mismatch => simp [hdecode, Except.mapError] at h
      | ok c' =>
        obtain rfl : c' = c := by simpa [hdecode, Except.mapError] using h
        exact ⟨members, hs, hconforms, decode_eq_ok_iff.1 hdecode⟩
  · rintro ⟨members, hs, hconforms, hdecoded⟩
    rw [ofText_of_conforms hs hconforms, decode_eq_ok_iff.2 hdecoded]
    rfl

lemma ofText_mistyped_iff {mismatch : Mismatch} :
    ofText s = .error (.mistyped mismatch) ↔
      ∃ members x, Holds s members ∧ Conforms (.object members) ∧ DoubleTimeout members x ∧
        mismatch = ⟨.number (.double x), "u64".toList⟩ := by
  constructor
  · intro h
    rcases ofText_cases s with hmalformed | ⟨violation, hinvalid⟩ | ⟨members, hs, hconforms⟩
    · rw [hmalformed] at h
      simp at h
    · rw [hinvalid] at h
      simp at h
    · rw [ofText_of_conforms hs hconforms] at h
      rcases decode_of_conforms hconforms with ⟨⟨c, hc⟩, -⟩ | ⟨x, hx, herror⟩
      · simp [hc, Except.mapError] at h
      · have hmismatch : mismatch = ⟨.number (.double x), "u64".toList⟩ := by
          simpa [herror, Except.mapError, eq_comm] using h
        exact ⟨members, x, hs, hconforms, hx, hmismatch⟩
  · rintro ⟨members, x, hs, hconforms, hx, rfl⟩
    rw [ofText_of_conforms hs hconforms]
    rcases decode_of_conforms hconforms with ⟨-, hdouble⟩ | ⟨x', hx', herror⟩
    · exact absurd hx (hdouble x)
    · obtain rfl : x' = x := by
        have hboth := hx'.symm.trans hx
        simpa using hboth
      rw [herror]
      rfl

/-- **Of the values of the form, just those are refused whose timeout is of double precision**,
and every other one is read. The form is what a value without violation has. -/
theorem decode_refuses_iff (v : Json) (s : Text) (mismatch : Mismatch) :
    (violation? v = none ↔ Conforms v) ∧
      (Conforms v → ∃ members, v = .object members ∧
        ((∃ c, decode members = .ok c) ↔ ∀ x, ¬ DoubleTimeout members x)) ∧
      (ofText s = .error (.mistyped mismatch) ↔
        ∃ members x, Holds s members ∧ Conforms (.object members) ∧ DoubleTimeout members x ∧
          mismatch = ⟨.number (.double x), "u64".toList⟩) := by
  refine ⟨violation?_eq_none_iff, fun hv => ?_, ofText_mistyped_iff⟩
  cases hv with
  | @object members h =>
    refine ⟨members, rfl, fun ⟨c, hc⟩ x hx => ?_, fun hdouble => ?_⟩
    · rcases decode_of_conforms (.object h) with ⟨-, hdouble⟩ | ⟨_, -, herror⟩
      · exact hdouble x hx
      · rw [hc] at herror
        simp at herror
    · rcases decode_of_conforms (.object h) with ⟨hc, -⟩ | ⟨x, hx, -⟩
      · exact hc
      · exact absurd hx (hdouble x)

def germanMembers : List (Text × Json) := [("language".toList, .string "de".toList)]

theorem decode_refuses_iff_german : Conforms (.object germanMembers) ∧
    ∃ c, decode germanMembers = .ok c := by
  have hconforms : Conforms (.object germanMembers) := by
    refine .object fun m hm => ⟨.string 1, ?_, ?_⟩
    · rw [List.mem_singleton.1 hm]
      simp [properties]
    · rw [List.mem_singleton.1 hm]
      exact .string (by decide)
  obtain ⟨-, hdecode, -⟩ :=
    decode_refuses_iff (.object germanMembers) [] ⟨.null, "u64".toList⟩
  obtain ⟨members, hmembers, hread⟩ := hdecode hconforms
  obtain rfl : germanMembers = members := by simpa using hmembers
  have hnone : germanMembers.lookup "toolTimeoutSecs".toList = none := rfl
  refine ⟨hconforms, hread.2 fun x hx => ?_⟩
  rw [DoubleTimeout, hnone] at hx
  simp at hx

/-! ### A timeout with a point -/

def fiveSeconds : Text := "\x7b\"toolTimeoutSecs\": 5.0\x7d".toList

def fiveMembers : List (Text × Json) :=
  [("toolTimeoutSecs".toList, .number (.double ⟨false, 5⟩))]

lemma ofNumeral_fiveSeconds : Json.ofNumeral "5.0".toList = .number (.double ⟨false, 5⟩) := by
  have hscale : Json.scale (Binary64.round ((50 : ℕ) : ℚ)) (-1) = some 5 := by
    rw [Json.scale]
    decide +kernel
  have hvalue : (Json.Decimal.split false "5.0".toList).value? =
      (Json.scale (Binary64.round ((50 : ℕ) : ℚ)) (-1)).map
        fun x => Json.Number.double ⟨false, x⟩ := rfl
  have hnumeral : Json.ofNumeral "5.0".toList =
      Json.ofNumeral.decimal false "5.0".toList "5.0".toList := rfl
  rw [hnumeral, Json.ofNumeral.decimal, hvalue, hscale]
  rfl

lemma read_fiveSeconds : Json.read? fiveSeconds = some (some (.object fiveMembers)) := by
  have htokens : Json.tokens? fiveSeconds =
      some [.openBrace, .string "toolTimeoutSecs".toList, .colon, .number "5.0".toList,
        .closeBrace] := by decide +kernel
  rw [Json.read?, htokens, fiveMembers, ← ofNumeral_fiveSeconds]
  rfl

/-- **A timeout of five seconds is refused** although it has the form, if it is written with a
point. -/
theorem conforms_fiveSeconds_refused :
    Json.read? fiveSeconds = some (some (.object fiveMembers)) ∧ Conforms (.object fiveMembers) ∧
      ofText fiveSeconds =
        .error (.mistyped ⟨.number (.double ⟨false, 5⟩), "u64".toList⟩) := by
  have hconforms : Conforms (.object fiveMembers) := by
    refine .object fun m hm => ⟨.integer 1, ?_, ?_⟩
    · rw [List.mem_singleton.1 hm]
      simp [properties]
    · rw [List.mem_singleton.1 hm]
      exact .integer (k := 5) rfl (by decide)
  exact ⟨read_fiveSeconds, hconforms, ofText_mistyped_iff.2
    ⟨fiveMembers, _, ⟨_, read_fiveSeconds, rfl⟩, hconforms, rfl, rfl⟩⟩

end LatexReview.Config
