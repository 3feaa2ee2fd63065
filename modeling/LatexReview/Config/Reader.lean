import LatexReview.Config.Basic
import LatexReview.Config.Schema
import LatexReview.Json.Reader
import LatexReview.RunError

/-!
Reading a configuration: its JSON text, its form, its values.
-/

namespace LatexReview.Config

/-- A value that is not of the type of its field. -/
structure Mismatch where
  found : Json
  expected : Text

/-- Why a text is no configuration. -/
inductive ReadError where
  | unreadable (cause : IoError)
  | malformed
  | invalid (violation : Violation)
  | mistyped (mismatch : Mismatch)

/-- A value as a message names it. -/
def describe : Json → Text
  | .null => "null".toList
  | .bool b => "boolean `".toList ++ (if b then "true" else "false").toList ++ ['`']
  | .number (.integer n) => "integer `".toList ++ Json.integerText n ++ ['`']
  | .number (.double x) => "floating point `".toList ++ x.render ++ ['`']
  | .string s => "string ".toList ++ s.quoted
  | .array _ => "sequence".toList
  | .object _ => "map".toList

def Mismatch.message (m : Mismatch) : Text :=
  "invalid type: ".toList ++ describe m.found ++ ", expected ".toList ++ m.expected

def ReadError.message : ReadError → Text
  | .unreadable cause => "Failed to read config: ".toList ++ cause.message
  | .malformed => "Invalid JSON".toList
  | .invalid violation => "Config validation failed: ".toList ++ violation.message
  | .mistyped mismatch => "Invalid config: ".toList ++ mismatch.message

def ReadError.toRunError (e : ReadError) : RunError := .config e.message

/-! ### Values -/

def stringValue (v : Json) : Except Mismatch Text :=
  match v with
  | .string s => .ok s
  | v => .error ⟨v, "a string".toList⟩

def boolValue (v : Json) : Except Mismatch Bool :=
  match v with
  | .bool b => .ok b
  | v => .error ⟨v, "a boolean".toList⟩

/-- An integer of 64 bits without sign. A number with a point is none. -/
def wholeValue (v : Json) : Except Mismatch Nat :=
  match v with
  | .number (.integer n) => if 0 ≤ n then .ok n.toNat else .error ⟨v, "u64".toList⟩
  | v => .error ⟨v, "u64".toList⟩

def moduleValue (v : Json) : Except Mismatch ModuleOption :=
  match v with
  | .bool b => .ok (.enabled b)
  | .object members => .ok (.options members)
  | v => .error ⟨v, "a flag or options".toList⟩

def modulesValue (v : Json) : Except Mismatch (List (Text × ModuleOption)) :=
  match v with
  | .object members => members.mapM fun (name, setting) => return (name, ← moduleValue setting)
  | v => .error ⟨v, "a map".toList⟩

/-- A field of an object, or its default. -/
def fieldOr {α : Type} (members : List (Text × Json)) (name : Text)
    (value : Json → Except Mismatch α) (default : α) : Except Mismatch α :=
  match members.lookup name with
  | some v => value v
  | none => .ok default

/-- The configuration that an object stands for. -/
def decode (members : List (Text × Json)) : Except Mismatch Config := do
  let default : Config := {}
  return {
    language := ← fieldOr members "language".toList stringValue default.language
    whitelist := ← fieldOr members "whitelist".toList stringValue default.whitelist
    output := ← fieldOr members "output".toList (fun v => some <$> stringValue v) default.output
    enableModulesByDefault := ←
      fieldOr members "enableModulesByDefault".toList boolValue default.enableModulesByDefault
    toolTimeoutSecs := ←
      fieldOr members "toolTimeoutSecs".toList wholeValue default.toolTimeoutSecs
    modules := ← fieldOr members "modules".toList modulesValue default.modules }

/-! ### Texts and files -/

def ofText (s : Text) : Except ReadError Config :=
  match Json.read? s with
  | none => .error .malformed
  | some document =>
    let v := document.getD (.object [])
    match violation? v with
    | some violation => .error (.invalid violation)
    | none =>
      match v with
      | .object members =>
        match decode members with
        | .ok c => .ok c
        | .error mismatch => .error (.mistyped mismatch)
      | v => .error (.mistyped ⟨v, "a map".toList⟩)

/-- Reads a file. Relative paths in it start from its directory. -/
def load (files : FileTree) (path : Path) : Except ReadError Config :=
  match files.readText path with
  | .error cause => .error (.unreadable cause)
  | .ok s => (ofText s).map fun c => { c with baseDir := path.parent? }

/-- The names of configuration files, by precedence. -/
def fileNames : List Text := [".texbuddy.jsonc".toList, ".texbuddy.json".toList]

/-- The configuration file in a directory. -/
def discover? (files : FileTree) (directory : Path) : Option Path :=
  (fileNames.map (Path.join directory)).find? files.isFile

/-! ### Written form -/

def moduleJson : ModuleOption → Json
  | .enabled flag => .bool flag
  | .options members => .object members

/-- What a configuration file says to get this configuration, selection and directory
apart. -/
def toJson (c : Config) : Json :=
  .object ([("language", .string c.language), ("whitelist", .string c.whitelist),
    ("output", match c.output with
      | some p => .string p
      | none => .null),
    ("enableModulesByDefault", .bool c.enableModulesByDefault),
    ("toolTimeoutSecs", .nat c.toolTimeoutSecs),
    ("modules", .object (c.modules.map fun (name, setting) => (name, moduleJson setting)))].map
      fun (name, v) => (name.toList, v))

end LatexReview.Config
