import Mathlib
import TensorBundle.CommandLine.Run
import TensorBundle.Proofs.CommandLine.Arguments
import TensorBundle.Proofs.Program.FailFast
import TensorBundle.Proofs.Session.Steps
import TensorBundle.Proofs.Program.Summarizing
/-!
A run on the command line: the program of the bundle is loaded and executed in a new workspace, in
the configuration of the environment and the switches. What is written and the exit code follow
from how these two end.
-/
namespace TensorBundle

inductive FailsWith : Except Failure Status → Text → Prop where
  | error (e : BundleError) : FailsWith (.error (.error e)) e.text
  | status (status : Status) (bad : status.isOk = false) : FailsWith (.ok status) status.text

theorem Program.execute_answers {p : Program} {setting : Setting} {registry : Registry}
    {ws : Workspace} (answers : IsAnswer (p.execute setting registry ws).result) :
    ∃ status, (p.execute setting registry ws).result = .ok status := by
  have allowed := failFast_execute setting registry p ws
  generalize p.execute setting registry ws = outcome at allowed answers
  generalize p.operations = ops at allowed
  cases allowed with
  | completes ops pass => exact ⟨_, rfl⟩
  | stops earlier op later code message pass fails => exact ⟨_, rfl⟩
  | escapes earlier op later fault pass fails => exact absurd rfl (answers fault)

theorem Program.exists_summary (p : Program) (setting : Setting) {ws : Workspace}
    (sound : ws.Sound) :
    ∃ text, p.summary (some (p.execute setting .builtIn ws).workspace) = .ok text := by
  have after : (p.execute setting .builtIn ws).workspace.Sound :=
    (Session.step_keeps ⟨ws, []⟩
      (.execute setting .builtIn Registry.builtIn_isBuiltIn p)).sound sound
  obtain ⟨text, shown⟩ := Workspace.exists_summary (Workspace.stated_of_sound after)
  rw [summary, shown]
  exact ⟨_, rfl⟩

namespace CommandLine

/-- The configuration of a run: that of the environment, except that a missing manifest is an error
unless a variable says otherwise, and for what the switches of the run change. -/
structure Configured (env : Config.Environment) (r : RunRequest) (config : Config) : Prop where
  strictUnset : Config.value? env "PORTABLENET_STRICT_MANIFEST" = none →
    config.strictManifest = true
  strictSet : Config.value? env "PORTABLENET_STRICT_MANIFEST" ≠ none →
    config.strictManifest = (Config.ofEnvironment env).strictManifest
  named : ∀ name, r.manifest = some name → name ≠ [] → config.manifestName = name
  unnamed : r.manifest = none ∨ r.manifest = some [] →
    config.manifestName = (Config.ofEnvironment env).manifestName
  forceReload : config.forceReload = true ↔
    r.forceReload = true ∨ (Config.ofEnvironment env).forceReload = true
  strictResources : config.strictResources = true ↔
    r.lenient = false ∧ (Config.ofEnvironment env).strictResources = true
  verboseSet : 1 ≤ r.verbose → config.verbose = min 4 (2 + (r.verbose : Int))
  verboseUnset : r.verbose = 0 → config.verbose = (Config.ofEnvironment env).verbose

theorem configured_configuration (env : Config.Environment) (r : RunRequest) :
    Configured env r (configuration env r) where
  strictUnset unset := by
    change (_ || (Config.value? env "PORTABLENET_STRICT_MANIFEST").isNone) = true
    rw [unset, Option.isNone_none, Bool.or_true]
  strictSet isSet := by
    change (_ || (Config.value? env "PORTABLENET_STRICT_MANIFEST").isNone) = _
    rw [Option.isNone_eq_false_iff.mpr (Option.isSome_iff_ne_none.mpr isSet), Bool.or_false]
  named name given some := by
    cases name with
    | nil => exact absurd rfl some
    | cons c name => simp only [configuration, given]
  unnamed missing := by
    rcases missing with none | empty
    · simp only [configuration, none]
    · simp only [configuration, empty]
  forceReload := by
    rw [configuration, Bool.or_eq_true, or_comm]
  strictResources := by
    rw [configuration, Bool.and_eq_true, Bool.not_eq_true', and_comm]
  verboseSet some := if_neg (Nat.one_le_iff_ne_zero.mp some)
  verboseUnset none := if_pos none

theorem configured_iff (env : Config.Environment) (r : RunRequest) (config : Config) :
    Configured env r config ↔ config = configuration env r := by
  constructor
  · intro configured
    have made := configured_configuration env r
    have manifestName : config.manifestName = (configuration env r).manifestName := by
      by_cases given : r.manifest = none ∨ r.manifest = some []
      · rw [configured.unnamed given, made.unnamed given]
      · obtain ⟨name, named⟩ := Option.ne_none_iff_exists'.mp (not_or.mp given).1
        have some : name ≠ [] := fun empty => (not_or.mp given).2 (empty ▸ named)
        rw [configured.named name named some, made.named name named some]
    have strictManifest : config.strictManifest = (configuration env r).strictManifest := by
      by_cases unset : Config.value? env "PORTABLENET_STRICT_MANIFEST" = none
      · rw [configured.strictUnset unset, made.strictUnset unset]
      · rw [configured.strictSet unset, made.strictSet unset]
    have verbose : config.verbose = (configuration env r).verbose := by
      by_cases unset : r.verbose = 0
      · rw [configured.verboseUnset unset, made.verboseUnset unset]
      · have some := Nat.one_le_iff_ne_zero.mpr unset
        rw [configured.verboseSet some, made.verboseSet some]
    have forceReload : config.forceReload = (configuration env r).forceReload :=
      Bool.eq_iff_iff.mpr (configured.forceReload.trans made.forceReload.symm)
    have strictResources : config.strictResources = (configuration env r).strictResources :=
      Bool.eq_iff_iff.mpr (configured.strictResources.trans made.strictResources.symm)
    cases config
    simp_all
  · rintro rfl
    exact configured_configuration env r

/-- How a run ends and what it writes, by the program it loads and the outcome of executing it. The
lines on the standard error are those of the library itself. -/
structure Composed (r : RunRequest) (config : Config) (loading : Loading)
    (outcome : Outcome Status) (output : Output) : Prop where
  succeeds : output.exitCode = 0 ↔ Succeeds loading.result ∧ Succeeds outcome.result
  fails : output.exitCode = 0 ∨ output.exitCode = 1
  silent : ¬ Succeeds loading.result ∨ r.quiet = true → output.out = []
  shows : Succeeds loading.result → r.quiet = false →
    ∃ text, loading.program.summary (some outcome.workspace) = .ok text ∧ output.out = text ++ "\n"
  tells : output.exitCode = 0 → output.err = logText config (loading.log ++ outcome.log)
  reports : output.exitCode = 1 → ∃ told problem,
    output.err = logText config told ++ "Error: " ++ problem ++ "\n" ∧
      (FailsWith loading.result problem ∧ told = loading.log ∨
        Succeeds loading.result ∧ FailsWith outcome.result problem ∧
          told = loading.log ++ outcome.log)

section Composed
variable {r : RunRequest} {config : Config} {loading : Loading} {outcome : Outcome Status}

theorem errorLine_append (told problem : Text) :
    told ++ errorLine problem = told ++ "Error: " ++ problem ++ "\n" := by
  simp [errorLine, line]

theorem composed_of_unloaded {problem : Text} (unloaded : ¬ Succeeds loading.result)
    (fails : FailsWith loading.result problem) :
    Composed r config loading outcome
      ⟨1, [], logText config loading.log ++ errorLine problem⟩ where
  succeeds := ⟨nofun, fun both => absurd both.1 unloaded⟩
  fails := Or.inr rfl
  silent _ := rfl
  shows loaded := absurd loaded unloaded
  tells := nofun
  reports _ := ⟨loading.log, problem, errorLine_append _ _, Or.inl ⟨fails, rfl⟩⟩

theorem composed_of_executed {status : Status} {text : Text} (loaded : Succeeds loading.result)
    (executed : outcome.result = .ok status)
    (shown : loading.program.summary (some outcome.workspace) = .ok text) :
    Composed r config loading outcome
      ⟨if status.isOk then 0 else 1, if r.quiet then [] else text ++ "\n",
        logText config (loading.log ++ outcome.log) ++
          if status.isOk then [] else errorLine status.text⟩ where
  succeeds := by
    rw [executed, succeeds_ok_iff]
    cases status.isOk <;> simp [loaded]
  fails := by cases status.isOk <;> simp
  silent quiet := by
    rcases quiet with unloaded | quiet
    · exact absurd loaded unloaded
    · exact if_pos quiet
  shows _ loud := ⟨text, shown, by rw [loud, if_neg Bool.false_ne_true]⟩
  tells := by cases status.isOk <;> simp
  reports failed := by
    cases well : status.isOk with
    | true => simp [well] at failed
    | false =>
        refine ⟨loading.log ++ outcome.log, status.text, ?_, Or.inr ⟨loaded, ?_, rfl⟩⟩
        · exact errorLine_append _ _
        · rw [executed]
          exact .status status well

end Composed

section Run
variable {env : Config.Environment} {files : Files} {r : RunRequest}

theorem runLoaded_eq {setting : Setting} {p : Program} {status : Status} {text : Text}
    (executed : (p.execute setting .builtIn { baseName := r.bundle }).result = .ok status)
    (shown : p.summary
      (some (p.execute setting .builtIn { baseName := r.bundle }).workspace) = .ok text) :
    runLoaded setting r p =
      .ok (⟨if status.isOk then 0 else 1, if r.quiet then [] else text ++ "\n",
          if status.isOk then [] else errorLine status.text⟩,
        (p.execute setting .builtIn { baseName := r.bundle }).log) := by
  rw [runLoaded]
  dsimp only
  rw [executed]
  dsimp only
  cases r.quiet <;> cases status.isOk
  all_goals
    rw [shown]
    rfl

section Loading
variable {config : Config} (configured : Configured env r config)
include configured

theorem run_of_error {e : BundleError}
    (loaded : (Program.load {} ⟨config, files⟩ r.bundle).result = .error (.error e)) :
    run env files r = .ok ⟨1, [],
      logText config (Program.load {} ⟨config, files⟩ r.bundle).log ++ errorLine e.text⟩ := by
  obtain rfl := (configured_iff env r config).mp configured
  rw [run]
  dsimp only
  rw [loaded]

theorem run_of_failure {status : Status}
    (loaded : (Program.load {} ⟨config, files⟩ r.bundle).result = .ok status)
    (bad : status.isOk = false) :
    run env files r = .ok ⟨1, [],
      logText config (Program.load {} ⟨config, files⟩ r.bundle).log ++ errorLine status.text⟩ := by
  obtain rfl := (configured_iff env r config).mp configured
  rw [run]
  dsimp only
  rw [loaded]
  dsimp only
  rw [bad, if_neg Bool.false_ne_true]

theorem run_of_success {status : Status} {output : Output} {log : List Log.Entry}
    (loaded : (Program.load {} ⟨config, files⟩ r.bundle).result = .ok status)
    (good : status.isOk = true)
    (ran : runLoaded ⟨config, files⟩ r (Program.load {} ⟨config, files⟩ r.bundle).program =
      .ok (output, log)) :
    run env files r = .ok { output with
      err := logText config ((Program.load {} ⟨config, files⟩ r.bundle).log ++ log) ++
        output.err } := by
  obtain rfl := (configured_iff env r config).mp configured
  rw [run]
  dsimp only
  rw [loaded]
  dsimp only
  rw [if_pos good, ran]
  rfl

theorem run_composed :
    let setting : Setting := ⟨config, files⟩
    let loading := Program.load {} setting r.bundle
    let outcome := loading.program.execute setting .builtIn { baseName := r.bundle }
    IsAnswer loading.result → (Succeeds loading.result → IsAnswer outcome.result) →
      ∃ output, run env files r = .ok output ∧ Composed r config loading outcome output := by
  intro setting loading outcome loadAnswers runAnswers
  cases loaded : loading.result with
  | error failure =>
      cases failure with
      | fault fault => exact absurd loaded (loadAnswers fault)
      | error e =>
          refine ⟨_, run_of_error configured loaded, composed_of_unloaded ?_ ?_⟩
          · rw [loaded]
            exact nofun
          · rw [loaded]
            exact .error e
  | ok status =>
      cases well : status.isOk with
      | false =>
          refine ⟨_, run_of_failure configured loaded well, composed_of_unloaded ?_ ?_⟩
          · rw [loaded, succeeds_ok_iff, well]
            exact Bool.false_ne_true
          · rw [loaded]
            exact .status status well
      | true =>
          have succeeds : Succeeds loading.result := ⟨status, loaded, well⟩
          -- Executing cannot end in an error, and the workspace that it leaves can be shown.
          obtain ⟨status, executed⟩ := Program.execute_answers (runAnswers succeeds)
          obtain ⟨text, shown⟩ := loading.program.exists_summary setting
            (Workspace.sound_of_no_entries { baseName := r.bundle } rfl rfl)
          exact ⟨_, run_of_success configured loaded well (runLoaded_eq executed shown),
            composed_of_executed succeeds executed shown⟩

end Loading

end Run

/-- A run on the command line is loading and executing put together. Arguments that are spelled out
are read as the run that they say, and however a run was asked for, if there are no faults, it
succeeds when loading and executing do, shows the program and the workspace that execution leaves
unless it is to be quiet, and otherwise ends with the text of what failed. -/
theorem call_composes (env : Config.Environment) (files : Files) :
    (∀ (bundle : Text) (before after : List Written), bundle.head? ≠ some dash →
      (∀ w ∈ before ++ after, w.Fits) →
      Request.ofArguments (runName ::
        (before.flatMap Written.args ++ bundle :: after.flatMap Written.args)) =
          .ok (.run (asked bundle (before ++ after)))) ∧
    ∀ (args : List Text) (r : RunRequest) (config : Config),
      Request.ofArguments args = .ok (.run r) → Configured env r config →
      let setting : Setting := ⟨config, files⟩
      let loading := Program.load {} setting r.bundle
      let outcome := loading.program.execute setting .builtIn { baseName := r.bundle }
      IsAnswer loading.result → (Succeeds loading.result → IsAnswer outcome.result) →
        ∃ output, call env files args = .ok output ∧ Composed r config loading outcome output := by
  constructor
  · intro bundle before after plain fits
    exact ofArguments_written plain fits
  · intro args r config read configured setting loading outcome loadAnswers runAnswers
    rw [call, read]
    exact run_composed configured loadAnswers runAnswers

/-- The only operation has no handler: the run fails, and shows the workspace all the same. -/
theorem call_composes_stopped :
    let env : Config.Environment := [("PORTABLENET_VERBOSITY", "0")]
    let manifest : Text := "\x7b\"operations\": [\x7b\"type\": \"Pool\"\x7d]\x7d"
    let files : Files := .ofContents fun path =>
      if path = "b/a.json" then .ok (manifest.map fun c => UInt8.ofNat c.val) else .error .notFound
    let args : List Text := ["run", "-vv", "b", "--manifest=a.json", "--lenient"]
    let r : RunRequest :=
      { bundle := "b", manifest := some "a.json", lenient := true, verbose := 2 }
    let config : Config := ⟨"a.json", false, false, true, 4⟩
    let loading := Program.load {} ⟨config, files⟩ r.bundle
    let outcome := loading.program.execute ⟨config, files⟩ .builtIn { baseName := r.bundle }
    Request.ofArguments args = .ok (.run r) ∧ Configured env r config ∧ IsAnswer loading.result ∧
      IsAnswer outcome.result ∧ ∃ output, call env files args = .ok output ∧
        Composed r config loading outcome output ∧ output.exitCode = 1 ∧ output.out ≠ [] := by
  intro env manifest files args r config loading outcome
  obtain ⟨reads, composes⟩ := call_composes env files
  have read : Request.ofArguments args = .ok (.run r) :=
    reads "b" [.letters .verbose [.verbose]] [.assigned "a.json", .flag .lenient] (by decide)
      (by simp [Written.Fits])
  have configured : Configured env r config := (configured_iff env r config).mpr (by decide)
  have loadAnswers : IsAnswer loading.result := by decide +kernel
  have runAnswers : IsAnswer outcome.result := by decide +kernel
  have loaded : Succeeds loading.result := by decide +kernel
  have stopped : ¬ Succeeds outcome.result := by decide +kernel
  obtain ⟨output, called, composed⟩ :=
    composes args r config read configured loadAnswers fun _ => runAnswers
  refine ⟨read, configured, loadAnswers, runAnswers, output, called, composed, ?_, ?_⟩
  · exact composed.fails.resolve_left fun zero => stopped (composed.succeeds.mp zero).2
  · obtain ⟨text, _, shown⟩ := composed.shows loaded rfl
    rw [shown]
    exact List.append_ne_nil_of_right_ne_nil text (List.cons_ne_nil _ _)

end CommandLine
end TensorBundle
