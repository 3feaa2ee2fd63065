import LatexReview.Text.Basic

/-!
Reading the arguments of a command: options by short and long names, positional arguments,
and the subcommand that the rest is for.
-/

namespace LatexReview.CommandLine

/-- What an option is about. -/
inductive Key where
  | config
  | whitelist
  | verbose
  | format
  | output
  | language
  | enableModules
  | disableModules
  | version
  | help
deriving DecidableEq

/-- An option with its names. -/
structure OptionForm where
  key : Key
  short : Option Char
  long : Text
  takesValue : Bool

/-- What a command takes. -/
structure Form where
  options : List OptionForm
  subcommands : List Text
  /-- The greatest number of positional arguments, if there is one. -/
  positionals : Option Nat

/-- Why there is nothing to run. -/
inductive Stop where
  /-- The arguments make no sense. -/
  | usage
  | version
  | help
deriving DecidableEq

/-- What the arguments of a command say. -/
structure Parsed where
  options : List (Key × Text)
  positionals : List Text
  subcommand : Option (Text × List Text)

namespace Key

/-- Options that may stand more than once. -/
def repeats : Key → Bool
  | enableModules | disableModules => true
  | _ => false

/-- Values that an option takes. A path is not empty. -/
def accepts (key : Key) (value : Text) : Bool :=
  match key with
  | config | whitelist | output => value ≠ []
  | format => value = "text".toList || value = "json".toList
  | _ => true

end Key

/-- The arguments read so far. -/
structure State where
  parsed : Parsed
  /-- The option that waits for its value. -/
  pending : Option Key
  /-- Only positional arguments follow. -/
  literal : Bool

namespace State

def init : State := ⟨⟨[], [], none⟩, none, false⟩

/-- Notes an option with its value. -/
def note (s : State) (key : Key) (value : Text) : Except Stop State :=
  match key with
  | .version => .error .version
  | .help => .error .help
  | key =>
    if !key.accepts value || (!key.repeats && s.parsed.options.any (·.1 = key)) then .error .usage
    else .ok { s with
      parsed := { s.parsed with options := s.parsed.options ++ [(key, value)] }, pending := none }

def push (s : State) (arg : Text) : State :=
  { s with parsed := { s.parsed with positionals := s.parsed.positionals ++ [arg] } }

def positional (form : Form) (s : State) (arg : Text) : Except Stop State :=
  match form.positionals with
  | some most =>
    if s.parsed.positionals.length < most then .ok (s.push arg) else .error .usage
  | none => .ok (s.push arg)

/-- An option by its long name, perhaps with a value after an equals sign. -/
def long (form : Form) (s : State) (body : Text) : Except Stop State :=
  let (name, value) :=
    match Text.cutChar? '=' body with
    | some (name, value) => (name, some value)
    | none => (body, none)
  match form.options.find? (·.long = name), value with
  | none, _ => .error .usage
  | some o, some value => if o.takesValue then s.note o.key value else .error .usage
  | some o, none => if o.takesValue then .ok { s with pending := some o.key } else s.note o.key []

/-- Options by their short names, in a row. A value may follow in the same argument. -/
def shorts (form : Form) (s : State) : Text → Except Stop State
  | [] => .ok s
  | c :: rest =>
    match form.options.find? (·.short = some c) with
    | none => .error .usage
    | some o =>
      if !o.takesValue then do shorts form (← s.note o.key []) rest
      else match rest with
        | [] => .ok { s with pending := some o.key }
        | '=' :: value => s.note o.key value
        | value => s.note o.key value

/-- Has the form of an option. -/
def isOptionLike (arg : Text) : Bool := arg.head? = some '-' && arg ≠ ['-']

/-- An argument that is no subcommand. -/
def read (form : Form) (s : State) (arg : Text) : Except Stop State :=
  if s.literal then s.positional form arg
  else match s.pending with
    | some key => if isOptionLike arg then .error .usage else s.note key arg
    | none =>
      if arg = "--".toList then .ok { s with literal := true }
      else match arg with
        | '-' :: '-' :: body => s.long form body
        | '-' :: c :: body => s.shorts form (c :: body)
        | _ => s.positional form arg

end State

/-- Reads arguments up to a subcommand. -/
def parse (form : Form) (s : State) : List Text → Except Stop Parsed
  | [] => if s.pending.isSome then .error .usage else .ok s.parsed
  | arg :: rest =>
    if !s.literal && s.pending.isNone && arg ∈ form.subcommands then
      .ok { s.parsed with subcommand := some (arg, rest) }
    else do parse form (← s.read form arg) rest

namespace Parsed

def value? (p : Parsed) (key : Key) : Option Text := p.options.lookup key

/-- The values of an option that takes several, between commas. -/
def listOf (p : Parsed) (key : Key) : List Text :=
  (p.options.filter (·.1 = key)).flatMap fun (_, value) => value.splitOn ','

end Parsed

end LatexReview.CommandLine
