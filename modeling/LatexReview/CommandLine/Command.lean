import LatexReview.CommandLine.Argument
import LatexReview.Store.Path

/-!
The commands of the program.
-/

namespace LatexReview.CommandLine

inductive OutputFormat where
  | text
  | json
deriving DecidableEq

/-- What to check, and how to report it. -/
structure CheckOptions where
  files : List Path
  format : OutputFormat
  output : Option Path
  language : Option Text
  enableModules : List Text
  disableModules : List Text

inductive Command where
  | check (options : CheckOptions)
  | whitelistAdd (keys : List Text)
  | whitelistFromWordlist (wordlist : Path) (language : Text)

/-- A command with the options that all commands share. -/
structure Invocation where
  config : Option Path
  whitelist : Option Path
  command : Command

/-- The options that may stand before and after a subcommand. -/
def sharedOptions : List OptionForm :=
  [⟨.config, some 'c', "config".toList, true⟩, ⟨.whitelist, some 'w', "whitelist".toList, true⟩,
    ⟨.verbose, some 'v', "verbose".toList, false⟩, ⟨.help, some 'h', "help".toList, false⟩]

def programForm : Form where
  options := ⟨.version, some 'V', "version".toList, false⟩ :: sharedOptions
  subcommands := ["check".toList, "whitelist".toList, "help".toList]
  positionals := some 0

def checkForm : Form where
  options :=
    [⟨.format, some 'f', "format".toList, true⟩, ⟨.output, some 'o', "output".toList, true⟩,
      ⟨.language, some 'l', "language".toList, true⟩,
      ⟨.enableModules, none, "enable-modules".toList, true⟩,
      ⟨.disableModules, none, "disable-modules".toList, true⟩] ++ sharedOptions
  subcommands := []
  positionals := none

def whitelistForm : Form where
  options := sharedOptions
  subcommands := ["add".toList, "from-wordlist".toList, "help".toList]
  positionals := some 0

def addForm : Form where
  options := sharedOptions
  subcommands := []
  positionals := none

def wordlistForm : Form where
  options := sharedOptions
  subcommands := []
  positionals := some 2

/-- The value of a shared option. The one that stands last, after more subcommands, counts. -/
def shared? (levels : List Parsed) (key : Key) : Option Text :=
  levels.reverse.findSome? (·.value? key)

def invocation (levels : List Parsed) (command : Command) : Invocation :=
  ⟨shared? levels .config, shared? levels .whitelist, command⟩

def checkCommand (p : Parsed) : Except Stop Command :=
  let enable := p.listOf .enableModules
  let disable := p.listOf .disableModules
  if p.positionals = [] || [] ∈ p.positionals || (enable ≠ [] && disable ≠ []) then .error .usage
  else .ok (.check {
    files := p.positionals
    format := if p.value? .format = some "json".toList then .json else .text
    output := p.value? .output
    language := p.value? .language
    enableModules := enable
    disableModules := disable })

def wordlistCommand (p : Parsed) : Except Stop Command :=
  match p.positionals with
  | [wordlist, language] =>
    if wordlist = [] then .error .usage else .ok (.whitelistFromWordlist wordlist language)
  | _ => .error .usage

def whitelistInvocation (outer : List Parsed) (name : Text) (args : List Text) :
    Except Stop Invocation :=
  if name = "add".toList then do
    let p ← parse addForm .init args
    if p.positionals = [] then .error .usage
    else return invocation (outer ++ [p]) (.whitelistAdd p.positionals)
  else if name = "from-wordlist".toList then do
    let p ← parse wordlistForm .init args
    return invocation (outer ++ [p]) (← wordlistCommand p)
  else .error .help

/-- What the arguments of the program ask for. -/
def Invocation.ofArguments (args : List Text) : Except Stop Invocation := do
  let top ← parse programForm .init args
  match top.subcommand with
  | none => .error .usage
  | some (name, args) =>
    if name = "check".toList then
      let p ← parse checkForm .init args
      return invocation [top, p] (← checkCommand p)
    else if name = "whitelist".toList then
      let p ← parse whitelistForm .init args
      match p.subcommand with
      | none => .error .usage
      | some (name, args) => whitelistInvocation [top, p] name args
    else .error .help

end LatexReview.CommandLine
