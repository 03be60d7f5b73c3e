import Mathlib
import TensorBundle.FileTree
import TensorBundle.Proofs.Handler.Failing
import TensorBundle.Proofs.Handler.Loading
import TensorBundle.Proofs.Program.Independence
/-!
What the policies decide of an operation and of a run. Two settings make no difference to a run in
which each operation that is started does the same in both. So a run that succeeds under the strict
policy for resources is the same run under the lenient one; and whether what exists is loaded again
is of no account where each output is loaded once and did not exist before.
-/
namespace TensorBundle

open TensorBundle.Action

namespace Setting

def withStrictResources (setting : Setting) (strict : Bool) : Setting :=
  { setting with config := { setting.config with strictResources := strict } }

def withForceReload (setting : Setting) (force : Bool) : Setting :=
  { setting with config := { setting.config with forceReload := force } }

end Setting

namespace Handler
variable (setting : Setting) (op : Operation)

section Lenient

theorem resourceFailure_fails {config : Config} (strict : config.strictResources = true)
    (path : Text) (problem : ResourceProblem) (expectedBytes readBytes : Option Int)
    (ws : Workspace) (answer : Option Status) :
    (resourceFailure config path problem expectedBytes readBytes ws).result ≠ .ok answer := by
  rw [resourceFailure_strict strict]
  exact nofun

theorem load_extends : (load (setting.withStrictResources true) op).Extends
    (load (setting.withStrictResources false) op) := by
  apply extends_bind (extends_refl _)
  intro request
  apply extends_bind (extends_refl _)
  intro cached
  cases cached with
  | true => exact extends_refl _
  | false =>
      apply extends_bind (extends_refl _)
      intro ws
      apply extends_bind (extends_refl _)
      intro found
      cases found with
      | error e =>
          apply extends_bind
          · apply extends_of_fails
            exact resourceFailure_fails rfl _ _ _ _
          · intro status
            exact extends_refl _
      | ok bytes =>
          apply extends_bind (extends_refl _)
          intro id
          apply extends_bind (extends_refl _)
          intro read
          dsimp only
          split
          · apply extends_of_fails
            intro after answer
            -- The tensor that is filled in part is taken back first, and that always succeeds.
            exact resourceFailure_fails rfl _ _ _ _ (after.remove request.name) answer
          · exact extends_refl _

theorem loadImage_extends : (loadImage (setting.withStrictResources true) op).Extends
    (loadImage (setting.withStrictResources false) op) := by
  apply extends_bind (extends_refl _)
  intro request
  apply extends_bind (extends_refl _)
  intro cached
  cases cached with
  | true => exact extends_refl _
  | false =>
      apply extends_bind (extends_refl _)
      intro ws
      apply extends_bind (extends_refl _)
      intro found
      split
      · exact extends_refl _
      · apply extends_of_fails
        exact resourceFailure_fails rfl _ _ _ _
      · exact extends_refl _

end Lenient

section Force
variable {setting op} {ws : Workspace}

theorem isCached_of_absent {name : Text} (absent : ws.contains name = false) (config : Config) :
    isCached config name ws = ⟨.ok false, ws, []⟩ := by
  apply isCached_wanted
  rw [isKept, absent, Bool.false_and]

theorem load_of_absent (absent : ∀ name, op.outputs.head? = some name → ws.contains name = false)
    (force : Bool) : load (setting.withForceReload force) op ws = load setting op ws := by
  unfold load
  rw [bind_run, bind_run]
  cases request : LoadRequest.ofOperation op with
  | error e => rfl
  | ok r =>
      have wanted := isCached_of_absent (absent r.name (LoadRequest.head_outputs request))
      simp only [ofExcept_run, Outcome.andThen_ok]
      rw [bind_run_ok (wanted _), bind_run_ok (wanted _)]
      rfl

theorem loadImage_of_absent
    (absent : ∀ name, op.outputs.head? = some name → ws.contains name = false) (force : Bool) :
    loadImage (setting.withForceReload force) op ws = loadImage setting op ws := by
  unfold loadImage
  rw [bind_run, bind_run]
  cases request : ImageRequest.ofOperation op with
  | error e => rfl
  | ok r =>
      have wanted := isCached_of_absent (absent r.name (ImageRequest.head_outputs request))
      simp only [ofExcept_run, Outcome.andThen_ok]
      rw [bind_run_ok (wanted _), bind_run_ok (wanted _)]
      rfl

end Force

end Handler

def Operation.IsLoading (op : Operation) : Prop := op.type = "Load" ∨ op.type = "LoadImage"

namespace BuiltIn

theorem work_extends (b : BuiltIn) (setting : Setting) (op : Operation) :
    (b.work (setting.withStrictResources true) op).Extends
      (b.work (setting.withStrictResources false) op) := by
  cases b with
  | load => exact Handler.load_extends setting op
  | loadImage => exact Handler.loadImage_extends setting op
  | convolution => exact Action.extends_refl _

end BuiltIn

namespace Program

section Alike
variable {one other : Setting} {registry : Registry}

/-- An operation does the same in two settings. -/
def Alike (one other : Setting) (registry : Registry) (op : Operation) (ws : Workspace) : Prop :=
  ∀ handler, registry.handler? op.type = some handler →
    handler.work other op ws = handler.work one op ws

theorem alike_step {op : Operation} {ws : Workspace} (alike : Alike one other registry op ws) :
    verdict other registry op ws = verdict one registry op ws ∧
      effect other registry op ws = effect one registry op ws ∧
      told other registry op ws = told one registry op ws := by
  unfold verdict effect told
  cases found : registry.handler? op.type with
  | none => exact ⟨rfl, rfl, rfl⟩
  | some handler =>
      dsimp only
      rw [alike handler found]
      exact ⟨rfl, rfl, rfl⟩

/-- Settings in which each operation does the same whenever those in front of it have passed. -/
def AlikeUpTo (one other : Setting) (registry : Registry) (ops : List Operation) (ws : Workspace) :
    Prop :=
  ∀ earlier op later, ops = earlier ++ op :: later → AllPass one registry earlier ws →
    Alike one other registry op (effects one registry earlier ws)

theorem runFrom_alike {ops : List Operation} {ws : Workspace}
    (alike : AlikeUpTo one other registry ops ws) (index : Nat) :
    runFrom other registry index ops ws = runFrom one registry index ops ws := by
  induction ops generalizing ws index with
  | nil => rfl
  | cons op rest ih =>
      obtain ⟨ending, made, said⟩ := alike_step (alike [] op rest rfl trivial)
      change verdict other registry op ws = verdict one registry op ws at ending
      change effect other registry op ws = effect one registry op ws at made
      change told other registry op ws = told one registry op ws at said
      cases outcome : verdict one registry op ws with
      | passes =>
          rw [runFrom_passes outcome, runFrom_passes (ending.trans outcome), made, said, ih]
          intro earlier later behind split pass
          subst split
          exact alike (op :: earlier) later behind rfl ⟨outcome, pass⟩
      | stops code message =>
          rw [runFrom_stops outcome, runFrom_stops (ending.trans outcome), made, said]
      | escapes fault =>
          rw [runFrom_escapes outcome, runFrom_escapes (ending.trans outcome), made, said]

theorem execute_alike {p : Program} {ws : Workspace}
    (alike : AlikeUpTo one other registry p.operations ws) :
    p.execute other registry ws = p.execute one registry ws :=
  runFrom_alike alike 0

end Alike

section Telling
variable {kind : Log.Entry → Prop} {setting : Setting} {registry : Registry}

theorem runOperation_tells (runs : ∀ message, kind ⟨.debug, .program, message⟩)
    (each : ∀ entry ∈ registry.entries, ∀ op, (entry.2.work setting op).Tells kind)
    (op : Operation) : (runOperation setting registry op).Tells kind := by
  apply Action.tells_bind (Action.tells_tell (runs _))
  intro _
  apply Action.tells_rescue
  apply Action.tells_bind_ofChecked
  intro handler found
  obtain ⟨entry, listed, rfl⟩ := Registry.mem_of_find found
  apply Action.tells_bind (each entry listed op)
  intro answer
  exact Action.tells_of_silent fun _ => rfl

theorem runFrom_tells (runs : ∀ message, kind ⟨.debug, .program, message⟩)
    (fails : ∀ message, kind ⟨.error, .program, message⟩)
    (each : ∀ entry ∈ registry.entries, ∀ op, (entry.2.work setting op).Tells kind)
    (index : Nat) (ops : List Operation) : (runFrom setting registry index ops).Tells kind := by
  induction ops generalizing index with
  | nil => exact Action.tells_of_silent fun _ => rfl
  | cons op rest ih =>
      apply Action.tells_bind (runOperation_tells runs each op)
      intro status
      cases status.isOk with
      | true => exact ih (index + 1)
      | false =>
          apply Action.tells_bind (Action.tells_tell (fails _))
          intro _
          exact Action.tells_of_silent fun _ => rfl

end Telling

section Lenient
variable {setting : Setting} {ws : Workspace}

theorem errorCode_of_stops {op : Operation} {code : StatusCode} {message : Text}
    (fails : verdict setting .builtIn op ws = .stops code message) :
    code = .notImplemented ∨ Handler.ErrorCode setting.config code := by
  unfold verdict at fails
  split at fails
  · cases fails
    exact Or.inl rfl
  · rename_i handler found
    obtain ⟨b, _, same⟩ := BuiltIn.of_handler found
    rw [same] at fails
    right
    split at fails
    · cases fails
    · rename_i status answered
      cases b.work_answer answered
      cases fails
    · rename_i e failed
      cases fails
      exact b.work_errorCode failed
    · cases fails

/-- Where all operations pass under the strict policy, each does the same under the lenient one. -/
theorem alikeUpTo_of_allPass {ops : List Operation}
    (pass : AllPass (setting.withStrictResources true) .builtIn ops ws) :
    AlikeUpTo (setting.withStrictResources true) (setting.withStrictResources false) .builtIn
      ops ws := by
  intro earlier op later split _ handler found
  rw [split, allPass_append] at pass
  obtain ⟨passing, present, answer, done⟩ := done_of_passes pass.2.1
  rw [found] at present
  cases present
  obtain ⟨b, _, same⟩ := BuiltIn.of_handler found
  rw [same] at done ⊢
  exact b.work_extends setting op _ answer done

theorem level_ne_warning (strict : setting.config.strictResources = true) (p : Program) :
    (p.execute setting .builtIn).Tells fun entry => entry.level ≠ .warning := by
  apply runFrom_tells
  · intro message
    exact Log.Level.noConfusion
  · intro message
    exact Log.Level.noConfusion
  · intro entry listed op
    obtain ⟨b, same⟩ := Registry.builtIn_isBuiltIn entry listed
    rw [same]
    refine BuiltIn.work_tells ?_ ?_ b op
    · intro source message _
      exact Log.Level.noConfusion
    · intro lenient
      rw [strict] at lenient
      cases lenient

theorem code_ne_notFound (lenient : setting.config.strictResources = false) {p : Program}
    {status : Status} (ended : (p.execute setting .builtIn ws).result = .ok status) :
    status.code ≠ .notFound := by
  have allowed := failFast_execute setting .builtIn p ws
  generalize p.execute setting .builtIn ws = outcome at allowed ended
  generalize p.operations = ops at allowed
  cases allowed with
  | completes ops pass =>
      cases ended
      exact StatusCode.noConfusion
  | stops earlier op later code message pass fails =>
      cases ended
      rcases errorCode_of_stops fails with missing | reported
      · rw [missing]
        exact StatusCode.noConfusion
      · intro same
        change code = .notFound at same
        subst same
        cases reported with
        | file strict =>
            rw [lenient] at strict
            cases strict
  | escapes earlier op later fault pass fails => cases ended

/-- The lenient policy for resources is conservative. A run that succeeds under the strict policy is
under the lenient one the same run, to the last entry of its log, none of which is a warning; and
under the lenient policy no run ends in the status that something was not found. -/
theorem execute_lenient (setting : Setting) (p : Program) (ws : Workspace) :
    (∀ status,
      (p.execute (setting.withStrictResources true) .builtIn ws).result = .ok status →
      status.isOk = true →
      p.execute (setting.withStrictResources false) .builtIn ws =
        p.execute (setting.withStrictResources true) .builtIn ws ∧
      ∀ entry ∈ (p.execute (setting.withStrictResources false) .builtIn ws).log,
        entry.level ≠ .warning) ∧
    ∀ status, (p.execute (setting.withStrictResources false) .builtIn ws).result = .ok status →
      status.code ≠ .notFound := by
  constructor
  · intro status done good
    have same := execute_alike (alikeUpTo_of_allPass (allPass_of_ok done good))
    constructor
    · exact same
    · rw [same]
      exact level_ne_warning rfl p ws
  · intro status ended
    exact code_ne_notFound rfl ended

theorem execute_lenient_number :
    let setting : Setting := ⟨{}, .ofContents fun _ => .ok [0, 0, 128, 63]⟩
    let p : Program := { operations := [loadNumber "a" "a.bin"] }
    let lenient := p.execute (setting.withStrictResources false) .builtIn {}
    lenient = p.execute (setting.withStrictResources true) .builtIn {} ∧
      lenient.workspace.content? "a" = some (.holding ⟨.float32, [1], [0, 0, 128, 63]⟩) ∧
      ∀ entry ∈ lenient.log, entry.level ≠ .warning := by
  intro setting p lenient
  have done : (p.execute (setting.withStrictResources true) .builtIn {}).result = .ok .success := by
    apply ok_of_toOption
    decide +kernel
  obtain ⟨same, quiet⟩ := (execute_lenient setting p {}).1 .success done rfl
  refine ⟨same, ?_, quiet⟩
  decide +kernel

end Lenient

section Force
variable {setting : Setting} {ws : Workspace}

/-- Each output that is loaded does not exist at first, and no other operation has it. -/
structure LoadsAfresh (ops : List Operation) (ws : Workspace) : Prop where
  absent : ∀ op ∈ ops, op.IsLoading → ∀ name, op.outputs.head? = some name →
    ws.contains name = false
  apart : ops.Pairwise fun a b => a.IsLoading ∨ b.IsLoading →
    ∀ name, a.outputs.head? = some name → b.outputs.head? ≠ some name

/-- What still has to be loaded once an operation was started does not exist then either. -/
theorem loadsAfresh_step {op : Operation} {rest : List Operation}
    (afresh : LoadsAfresh (op :: rest) ws) :
    LoadsAfresh rest (effect setting .builtIn op ws) := by
  obtain ⟨apart, others⟩ := List.pairwise_cons.mp afresh.apart
  constructor
  · intro later member loading name named
    have before := afresh.absent later (List.mem_cons_of_mem op member) loading name named
    rcases effect_outputEffect setting op ws with same | ⟨output, written, changed⟩
    · rw [same]
      exact before
    · have different : name ≠ output := by
        rintro rfl
        exact apart later member (Or.inr loading) name written named
      unfold Workspace.contains at before ⊢
      rw [Workspace.number_of_effect changed different]
      exact before
  · exact others

theorem loadsAfresh_effects (setting : Setting) {earlier rest : List Operation}
    (afresh : LoadsAfresh (earlier ++ rest) ws) :
    LoadsAfresh rest (effects setting .builtIn earlier ws) := by
  induction earlier generalizing ws with
  | nil => exact afresh
  | cons op earlier ih => exact ih (loadsAfresh_step afresh)

theorem alikeUpTo_of_loadsAfresh {ops : List Operation} (afresh : LoadsAfresh ops ws)
    (force : Bool) :
    AlikeUpTo setting (setting.withForceReload force) .builtIn ops ws := by
  intro earlier op later split _ handler found
  obtain ⟨b, typed, same⟩ := BuiltIn.of_handler found
  rw [split] at afresh
  have pending := (loadsAfresh_effects setting afresh).absent op List.mem_cons_self
  rw [same]
  cases b with
  | load => exact Handler.load_of_absent (pending (Or.inl typed.symm)) force
  | loadImage => exact Handler.loadImage_of_absent (pending (Or.inr typed.symm)) force
  | convolution => rfl

/-- Whether outputs that exist are loaded again makes no difference to a program each of whose
loaded outputs is absent at first and the output of no other operation: the whole outcome is the
same, the result or the fault, the workspace and the log. -/
theorem execute_force (setting : Setting) (p : Program) (ws : Workspace)
    (afresh : LoadsAfresh p.operations ws) :
    p.execute (setting.withForceReload true) .builtIn ws =
      p.execute (setting.withForceReload false) .builtIn ws := by
  rw [execute_alike (alikeUpTo_of_loadsAfresh afresh true),
    execute_alike (alikeUpTo_of_loadsAfresh afresh false)]

/-- The second of two tensors has no file, which ends the run behind the first. -/
theorem execute_force_stopped :
    let setting : Setting :=
      ⟨{}, .ofContents fun path =>
        if path = "a.bin" then .ok [0, 0, 128, 63] else .error .notFound⟩
    let p : Program := { operations := [loadNumber "a" "a.bin", loadNumber "b" "b.bin"] }
    let forced := p.execute (setting.withForceReload true) .builtIn {}
    LoadsAfresh p.operations {} ∧
      forced = p.execute (setting.withForceReload false) .builtIn {} ∧
      forced.workspace.content? "a" = some (.holding ⟨.float32, [1], [0, 0, 128, 63]⟩) ∧
      forced.result.toOption.map Status.code = some .notFound := by
  intro setting p forced
  have afresh : LoadsAfresh p.operations {} := by
    constructor
    · intro op member loading name named
      rfl
    · rw [List.pairwise_pair]
      rintro _ name ⟨⟩
      decide
  refine ⟨afresh, execute_force setting p {} afresh, ?_, ?_⟩
  · decide +kernel
  · decide +kernel

end Force

end Program
end TensorBundle
