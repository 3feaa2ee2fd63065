import LatexReview.Duration
import LatexReview.Json.Value
import LatexReview.Store.Path

/-!
The configuration of a run.
-/

namespace LatexReview

/-- The settings of one module: a flag, or options with perhaps a flag among them. -/
inductive ModuleOption where
  | enabled (flag : Bool)
  | options (members : List (Text × Json))

/-- The modules chosen for one run, in place of the configured ones. -/
inductive Selection where
  | configured
  /-- Exactly these. -/
  | only (names : List Text)
  /-- The configured ones, without these. -/
  | except (names : List Text)
deriving DecidableEq

structure Config where
  language : Text := "en".toList
  whitelist : Path := "whitelist".toList
  /-- The directory for results; without one, they are printed. -/
  output : Option Path := none
  enableModulesByDefault : Bool := true
  toolTimeoutSecs : Nat := 60
  /-- The settings of modules, by name and in the order of names. -/
  modules : List (Text × ModuleOption) := []
  selection : Selection := .configured
  /-- The directory that relative paths start from. -/
  baseDir : Option Path := none

namespace ModuleOption

def flag? : ModuleOption → Option Bool
  | enabled flag => some flag
  | options members =>
    match members.lookup "enabled".toList with
    | some (.bool flag) => some flag
    | _ => none

def option? (name : Text) : ModuleOption → Option Json
  | enabled _ => none
  | options members => members.lookup name

end ModuleOption

namespace Config

def module? (c : Config) (name : Text) : Option ModuleOption := c.modules.lookup name

/-- What the configuration says of a module, whatever is selected. -/
def isConfigured (c : Config) (name : Text) : Bool :=
  ((c.module? name).bind ModuleOption.flag?).getD c.enableModulesByDefault

def isModuleEnabled (c : Config) (name : Text) : Bool :=
  match c.selection with
  | .configured => c.isConfigured name
  | .only names => name ∈ names
  | .except names => name ∉ names && c.isConfigured name

/-- The language of the documents, unless it is empty. -/
def language? (c : Config) : Option Text := if c.language = [] then none else some c.language

/-- An option of a module that is a string. -/
def moduleText? (c : Config) (module option : Text) : Option Text := do
  match ← (← c.module? module).option? option with
  | .string s => some s
  | _ => none

def toolTimeout (c : Config) : Duration := .ofSeconds c.toolTimeoutSecs

/-- A path as seen from the directory of the configuration. -/
def locate (c : Config) (p : Path) : Path :=
  match c.baseDir with
  | some base => Path.join base p
  | none => p

def whitelistPath (c : Config) : Path := c.locate c.whitelist

def outputDir? (c : Config) : Option Path := c.output.map c.locate

end Config

end LatexReview
