import LatexReview.Json.Value

/-!
The form of a configuration file: which properties it may have, and which values they take.

The first violation counts, with properties in the order of their names.
-/

namespace LatexReview.Config

/-- The names of the types that a value may be required to have. -/
inductive TypeName where
  | string
  | boolean
  | integer
  | object
deriving DecidableEq

/-- What is wrong with a value. -/
inductive Fault where
  | wrongType (value : Json) (type : TypeName)
  | tooShort (value : Text) (least : Nat)
  | belowMinimum (value : Json.Number) (least : Nat)
  /-- The settings of a module are neither a flag nor options. -/
  | noAlternative (value : Json)
  | unexpected (name : Text)

/-- A fault and the names on the way to the value. -/
structure Violation where
  fault : Fault
  pointer : List Text

/-- The values that a property takes. -/
inductive Form where
  | string (least : Nat)
  | boolean
  | integer (least : Nat)
  /-- Flags or options, by the names of modules. -/
  | modules

/-- The properties of a configuration. -/
def properties : List (Text × Form) :=
  [("$schema", .string 0), ("language", .string 1), ("whitelist", .string 1),
    ("output", .string 1), ("enableModulesByDefault", .boolean), ("toolTimeoutSecs", .integer 1),
    ("modules", .modules)].map fun (name, form) => (name.toList, form)

/-- A number without fraction is an integer, however it is written. -/
def isInteger : Json.Number → Bool
  | .integer _ => true
  | .double x => x.magnitude.den = 1

/-- The value of a number. -/
def numberValue : Json.Number → Rat
  | .integer n => n
  | .double x => if x.negative then -x.magnitude else x.magnitude

/-- The settings of a module: a flag, or options whose flag, if any, is one. -/
def isModuleSetting : Json → Bool
  | .bool _ => true
  | .object members =>
    match members.lookup "enabled".toList with
    | none | some (.bool _) => true
    | some _ => false
  | _ => false

def Form.violation? (form : Form) (v : Json) : Option Violation :=
  match form, v with
  | .string least, .string s => if s.length < least then some ⟨.tooShort s least, []⟩ else none
  | .string _, v => some ⟨.wrongType v .string, []⟩
  | .boolean, .bool _ => none
  | .boolean, v => some ⟨.wrongType v .boolean, []⟩
  | .integer least, .number n =>
    if !isInteger n then some ⟨.wrongType v .integer, []⟩
    else if numberValue n < least then some ⟨.belowMinimum n least, []⟩
    else none
  | .integer _, v => some ⟨.wrongType v .integer, []⟩
  | .modules, .object members =>
    (members.find? fun (_, setting) => !isModuleSetting setting).map
      fun (name, setting) => ⟨.noAlternative setting, [name]⟩
  | .modules, v => some ⟨.wrongType v .object, []⟩

def memberViolation? (name : Text) (v : Json) : Option Violation :=
  match properties.lookup name with
  | none => some ⟨.unexpected name, []⟩
  | some form =>
    (form.violation? v).map fun violation => { violation with pointer := name :: violation.pointer }

/-- The first violation in a configuration. -/
def violation? : Json → Option Violation
  | .object members => members.findSome? fun (name, v) => memberViolation? name v
  | v => some ⟨.wrongType v .object, []⟩

/-! ### Messages -/

def TypeName.text : TypeName → Text
  | .string => "string".toList
  | .boolean => "boolean".toList
  | .integer => "integer".toList
  | .object => "object".toList

def Fault.message : Fault → Text
  | .wrongType value type =>
    value.compact ++ " is not of type \"".toList ++ type.text ++ ['"']
  | .tooShort value least =>
    Json.stringText value ++ " is shorter than ".toList ++ Text.numeral least ++
      (if least = 1 then " character" else " characters").toList
  | .belowMinimum value least =>
    value.render ++ " is less than the minimum of ".toList ++ Text.numeral least
  | .noAlternative value =>
    value.compact ++
      " is not valid under any of the schemas listed in the 'oneOf' keyword".toList
  | .unexpected name =>
    "Additional properties are not allowed ('".toList ++ name ++ "' was unexpected)".toList

/-- A name in a pointer. -/
def pointerPart (name : Text) : Text :=
  '/' :: name.flatMap fun c =>
    if c = '~' then ['~', '0'] else if c = '/' then ['~', '1'] else [c]

def Violation.message (v : Violation) : Text :=
  v.fault.message ++ " at ".toList ++ v.pointer.flatMap pointerPart

end LatexReview.Config
