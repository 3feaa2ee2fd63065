import LatexReview.Aggregate
import LatexReview.CommandLine.Command
import LatexReview.Config.Reader
import LatexReview.Document.Collection
import LatexReview.Report

/-!
Running the program in an environment.
-/

namespace LatexReview.CommandLine

/-- What a run leaves. -/
structure Result where
  code : Nat
  stdout : Text
  files : FileTree

/-- The exit codes. -/
def clean : Nat := 0
def errorsFound : Nat := 1
def failed : Nat := 2

/-- The end of a run that cannot go on. -/
def Result.failure (files : FileTree) : Result := ⟨failed, [], files⟩

/-- The configuration in the file that is named, or else in the one that is found. -/
def loadConfig (files : FileTree) (path : Option Path) : Except RunError Config :=
  match path.or (Config.discover? files []) with
  | some path => (Config.load files path).mapError Config.ReadError.toRunError
  | none => .ok {}

/-- The configuration of a run, with what the command line says of documents and modules. -/
def configure (c : Config) (o : CheckOptions) : Config :=
  { c with
    language := o.language.getD c.language
    selection :=
      if o.enableModules ≠ [] then .only o.enableModules
      else if o.disableModules ≠ [] then .except o.disableModules
      else .configured }

/-- A path of the command line starts from the working directory; one of the configuration,
from the directory of that. -/
def choosePath (given : Option Path) (configured : Option Path) : Option Path :=
  match given with
  | some path => some path.tidy
  | none => configured

def loadWhitelist (files : FileTree) (given : Option Path) (c : Config) :
    Except RunError Whitelist :=
  (Whitelist.load files ((choosePath given (some c.whitelistPath)).getD [])).mapError .whitelist

/-- Makes a directory for results. -/
def prepareOutput (files : FileTree) (directory : Path) : Except RunError FileTree :=
  if files.isPresent directory && !files.isDirectory directory then
    .error (.file ("Output path ".toList ++ directory ++ " is not a directory".toList))
  else (files.createDirectories directory).mapError .io

/-- The files that reports are written to. -/
def targets? (directory : Option Path) (reports : List Report) : Option (List (Path × Report)) :=
  match directory with
  | some directory =>
    (Report.resultPaths? directory (reports.map (·.path))).map (·.zip reports)
  | none => some []

/-- Prints and writes reports. Results in files are not printed as JSON, too. -/
def present (files : FileTree) (directory : Option Path) (format : OutputFormat)
    (reports : List Report) : Result :=
  match targets? directory reports with
  | none => .failure files
  | some targets =>
    match Report.writeAll files targets with
    | (some _, files) => .failure files
    | (none, files) =>
      let stdout :=
        match format, directory with
        | .json, some _ => []
        | .json, none => Report.jsonAll reports
        | .text, _ => Report.renderAll reports
      ⟨if reports.any Report.hasErrors then errorsFound else clean, stdout, files⟩

/-- The reports on the documents of a run. -/
def reports (env : Environment) (c : Config) (w : Whitelist) (paths : List Path) :
    Except RunError (List Report) := do
  let aggregate := Aggregate.ofRegistry .withBuiltins c
  let documents ← Document.collect env.files paths
  return documents.map fun d => ⟨d.path, (aggregate.check c env d w).sorted⟩

def runCheck (env : Environment) (given : Option Path) (c : Config) (o : CheckOptions) :
    Result :=
  let directory := choosePath o.output c.outputDir?
  let c := configure c o
  match directory.elim (.ok env.files) (prepareOutput env.files) with
  | .error _ => .failure env.files
  | .ok files =>
    match loadWhitelist files given c with
    | .error _ => .failure files
    | .ok w =>
      match reports { env with files } c w o.files with
      | .error _ => .failure files
      | .ok rs => present files directory o.format rs

/-- Adds keys to a whitelist. -/
def addKeys (w : Whitelist) (files : FileTree) (keys : List Text) : Result :=
  match Whitelist.State.addAll ⟨w, files⟩ keys with
  | (.ok _, s, _) => ⟨clean, [], s.files⟩
  | (.error _, s, _) => .failure s.files

def runInvocation (env : Environment) (i : Invocation) : Result :=
  let files := env.files
  match loadConfig files i.config with
  | .error _ => .failure files
  | .ok c =>
    match i.command with
    | .check o => runCheck env i.whitelist c o
    | .whitelistAdd keys =>
      match loadWhitelist files i.whitelist c with
      | .error _ => .failure files
      | .ok w => addKeys w files keys
    | .whitelistFromWordlist path language =>
      match loadWhitelist files i.whitelist c with
      | .error _ => .failure files
      | .ok w =>
        match files.readText path with
        | .error _ => .failure files
        | .ok words => addKeys w files (Whitelist.wordlistKeys words language)

def versionText : Text := "texbuddy 0.1.0\n".toList

/-- Runs the program with its arguments. -/
def run (env : Environment) (args : List Text) : Result :=
  match Invocation.ofArguments args with
  | .ok i => runInvocation env i
  | .error .usage => .failure env.files
  | .error .version => ⟨clean, versionText, env.files⟩
  | .error .help => ⟨clean, [], env.files⟩

end LatexReview.CommandLine
