import TensorBundle.CommandLine.Arguments
import TensorBundle.FileTree
import TensorBundle.Program
/-!
The program as a whole: from arguments, environment and files to what is written and the exit code.
-/
namespace TensorBundle.CommandLine

/-- What a run writes, and its exit code. On the standard error there may be log lines of other
libraries among those of this one, as from decoding an image; `err` has the lines of this one only.
-/
structure Output where
  exitCode : Nat := 0
  out : Text := []
  err : Text := []
  deriving DecidableEq, Repr

def version : Text := "0.1.0"

def line (t : Text) : Text := t ++ "\n"

def logLine (e : Log.Entry) : Text :=
  line ("[" ++ e.level.name ++ "] [" ++ e.source.name ++ "] " ++ e.message)

def logText (config : Config) (log : List Log.Entry) : Text :=
  (Log.atLeast config.logThreshold log).flatMap logLine

def strictManifestVariable : Text := "PORTABLENET_STRICT_MANIFEST"

/-- The configuration of a run: that of the environment, in which a missing manifest is an error
unless a variable says otherwise, changed by the switches. -/
def configuration (env : Config.Environment) (r : RunRequest) : Config :=
  let c := Config.ofEnvironment env
  { manifestName := match r.manifest with
      | none | some [] => c.manifestName
      | some name => name
    forceReload := c.forceReload || r.forceReload
    strictResources := c.strictResources && !r.lenient
    strictManifest := c.strictManifest || (Config.value? env strictManifestVariable).isNone
    verbose := if r.verbose = 0 then c.verbose else min 4 (2 + r.verbose) }

def errorLine (t : Text) : Text := line ("Error: " ++ t)

def runLoaded (setting : Setting) (r : RunRequest) (p : Program) :
    Except Fault (Output × List Log.Entry) :=
  let outcome := p.execute setting .builtIn { baseName := r.bundle }
  match outcome.result with
  | .error (.fault fault) => .error fault
  | .error (.error e) => .ok (⟨1, [], errorLine e.text⟩, outcome.log)
  | .ok status => do
    let out ← if r.quiet then pure [] else line <$> p.summary (some outcome.workspace)
    pure (if status.isOk then ⟨0, out, []⟩ else ⟨1, out, errorLine status.text⟩, outcome.log)

def run (env : Config.Environment) (files : Files) (r : RunRequest) : Except Fault Output :=
  let config := configuration env r
  let setting : Setting := ⟨config, files⟩
  let loading := Program.load {} setting r.bundle
  match loading.result with
  | .error (.fault fault) => .error fault
  | .error (.error e) => .ok ⟨1, [], logText config loading.log ++ errorLine e.text⟩
  | .ok status =>
    if status.isOk then do
      let (output, log) ← runLoaded setting r loading.program
      pure { output with err := logText config (loading.log ++ log) ++ output.err }
    else .ok ⟨1, [], logText config loading.log ++ errorLine status.text⟩

def call (env : Config.Environment) (files : Files) (args : List Text) : Except Fault Output :=
  match Request.ofArguments args with
  | .error (.shown text) => .ok ⟨0, text, []⟩
  | .error (.misused usage program message) =>
    .ok ⟨2, [], usage ++ line (program ++ ": error: " ++ message)⟩
  | .ok .version => .ok ⟨0, line ("PortableNet v" ++ version), []⟩
  | .ok .help => .ok ⟨0, programHelp, []⟩
  | .ok (.run r) => run env files r

def runOf (args : List Text) : Option RunRequest :=
  match Request.ofArguments args with
  | .ok (.run r) => some r
  | _ => none

def manifestPaths (env : Config.Environment) (args : List Text) : List Text :=
  ((runOf args).map fun r => Program.manifestPath (configuration env r) r.bundle).toList

def resourcePaths (env : Config.Environment) (files : Files) (args : List Text) : List Text :=
  match runOf args with
  | none => []
  | some r =>
    let p := (Program.load {} ⟨configuration env r, files⟩ r.bundle).program
    p.operations.filterMap fun op => ((op.get? "fileName").bind Json.text?).map (Path.join r.bundle)

end TensorBundle.CommandLine
