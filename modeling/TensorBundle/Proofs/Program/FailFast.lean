import Mathlib
import TensorBundle.FileTree
import TensorBundle.Program
import TensorBundle.Proofs.Action
import TensorBundle.Proofs.Handler.Escaping
import TensorBundle.Proofs.Json.Legible
import TensorBundle.Proofs.Program.Reloading
/-!
Running a program against its reference. The reference looks at each operation by itself: how it
ends in a workspace, what it makes of that workspace, and what it tells. A run ends after the first
operation that does not pass, in a status or in a fault, and nothing behind that operation has any
part in it.
-/
namespace TensorBundle.Program

/-- How an operation ends. -/
inductive Verdict where
  | passes
  | stops (code : StatusCode) (message : Text)
  | escapes (fault : Fault)

section Reference
variable (setting : Setting) (registry : Registry)

def verdict (op : Operation) (ws : Workspace) : Verdict :=
  match registry.handler? op.type with
  | none => .stops .notImplemented (BundleError.unsupported op.type registry.types).text
  | some handler =>
      match (handler.work setting op ws).result with
      | .ok none => .passes
      | .ok (some status) =>
          if status.code = .ok then .passes else .stops status.code status.message
      | .error (.error e) => .stops e.code e.text
      | .error (.fault fault) => .escapes fault

/-- What an operation makes of a workspace, also if it fails. -/
def effect (op : Operation) (ws : Workspace) : Workspace :=
  match registry.handler? op.type with
  | none => ws
  | some handler => (handler.work setting op ws).workspace

def told (op : Operation) (ws : Workspace) : List Log.Entry :=
  ⟨.debug, .program, "Executing " ++ op.type⟩ :: match registry.handler? op.type with
    | none => []
    | some handler => (handler.work setting op ws).log

def effects (ops : List Operation) (ws : Workspace) : Workspace :=
  ops.foldl (fun now op => effect setting registry op now) ws

def allTold : List Operation → Workspace → List Log.Entry
  | [], _ => []
  | op :: rest, ws => told setting registry op ws ++ allTold rest (effect setting registry op ws)

def AllPass : List Operation → Workspace → Prop
  | [], _ => True
  | op :: rest, ws =>
      verdict setting registry op ws = .passes ∧ AllPass rest (effect setting registry op ws)

def failureEntry (index : Nat) (op : Operation) (message : Text) : Log.Entry :=
  ⟨.error, .program,
    "Operation " ++ Text.natural index ++ " (" ++ op.type ++ ") failed: " ++ message⟩

/-- The outcomes that the reference allows. -/
inductive FailFast (ws : Workspace) : List Operation → Outcome Status → Prop where
  | completes (ops : List Operation) (pass : AllPass setting registry ops ws) :
      FailFast ws ops ⟨.ok .success, effects setting registry ops ws,
        allTold setting registry ops ws⟩
  | stops (earlier : List Operation) (op : Operation) (later : List Operation) (code : StatusCode)
      (message : Text) (pass : AllPass setting registry earlier ws)
      (fails : verdict setting registry op (effects setting registry earlier ws) =
        .stops code message) :
      FailFast ws (earlier ++ op :: later)
        ⟨.ok ⟨code, message, some earlier.length, some op.type⟩,
          effects setting registry (earlier ++ [op]) ws,
          allTold setting registry (earlier ++ [op]) ws ++ [failureEntry earlier.length op message]⟩
  | escapes (earlier : List Operation) (op : Operation) (later : List Operation) (fault : Fault)
      (pass : AllPass setting registry earlier ws)
      (fails : verdict setting registry op (effects setting registry earlier ws) = .escapes fault) :
      FailFast ws (earlier ++ op :: later)
        ⟨.error (.fault fault), effects setting registry (earlier ++ [op]) ws,
          allTold setting registry (earlier ++ [op]) ws⟩

end Reference

section Run
variable {setting : Setting} {registry : Registry}

theorem effects_concat (earlier : List Operation) (op : Operation) (ws : Workspace) :
    effects setting registry (earlier ++ [op]) ws =
      effect setting registry op (effects setting registry earlier ws) := by
  simp [effects]

theorem allTold_concat (earlier : List Operation) (op : Operation) (ws : Workspace) :
    allTold setting registry (earlier ++ [op]) ws = allTold setting registry earlier ws ++
      told setting registry op (effects setting registry earlier ws) := by
  induction earlier generalizing ws with
  | nil => simp [allTold, effects]
  | cons first rest ih => simp [allTold, effects, ih]

theorem code_ne_ok (e : BundleError) : e.code ≠ .ok := by
  cases e with
  | general _ _ _ _ failing => exact failing
  | configuration => exact StatusCode.noConfusion
  | validation => exact StatusCode.noConfusion
  | resource => exact StatusCode.noConfusion
  | memory => exact StatusCode.noConfusion
  | unsupported => exact StatusCode.noConfusion

/-- What the status of an operation says about the way that the operation ended. -/
def Reports : Verdict → Except Failure Status → Prop
  | .passes, result => ∃ status, result = .ok status ∧ status.isOk = true
  | .stops code message, result =>
      ∃ status, result = .ok status ∧ status.isOk = false ∧ status.code = code ∧
        status.message = message
  | .escapes fault, result => result = .error (.fault fault)

theorem runOperation_reports (setting : Setting) (registry : Registry) (op : Operation)
    (ws : Workspace) :
    Reports (verdict setting registry op ws) (runOperation setting registry op ws).result ∧
      (runOperation setting registry op ws).workspace = effect setting registry op ws ∧
      (runOperation setting registry op ws).log = told setting registry op ws := by
  unfold runOperation verdict effect told
  cases found : registry.handler? op.type with
  | none =>
      have missing : registry.find op.type = .error (.unsupported op.type registry.types) := by
        rw [Registry.find, found]
      simp only [Action.bind_run, Action.tell_run, Outcome.andThen_ok, Action.rescue,
        Action.ofChecked_run, missing, Except.mapError, BundleError.raised_unsupported,
        Outcome.andThen_error, Outcome.logged]
      exact ⟨⟨_, rfl, rfl, rfl, rfl⟩, trivial, rfl⟩
  | some handler =>
      have present : registry.find op.type = .ok handler := by
        rw [Registry.find, found]
      simp only [Action.bind_run, Action.tell_run, Outcome.andThen_ok, Action.rescue,
        Action.ofChecked_run, present, Except.mapError]
      -- An error, a fault, no status, or a status.
      rcases handler.work setting op ws with ⟨(e | fault) | (_ | status), after, log⟩
      · refine ⟨⟨_, rfl, ?_, rfl, rfl⟩, rfl, rfl⟩
        exact beq_eq_false_iff_ne.mpr (code_ne_ok e)
      · exact ⟨rfl, rfl, rfl⟩
      · exact ⟨⟨_, rfl, rfl⟩, rfl, by simp [Outcome.logged]⟩
      · refine ⟨?_, rfl, by simp [Outcome.logged]⟩
        by_cases well : status.code = .ok
        · simp only [well, if_true]
          exact ⟨status, rfl, beq_iff_eq.mpr well⟩
        · simp only [well, if_false]
          exact ⟨status, rfl, beq_eq_false_iff_ne.mpr well, rfl, rfl⟩

theorem runFrom_passes {op : Operation} {ws : Workspace}
    (pass : verdict setting registry op ws = .passes) (index : Nat) (rest : List Operation) :
    runFrom setting registry index (op :: rest) ws =
      (runFrom setting registry (index + 1) rest (effect setting registry op ws)).logged
        (told setting registry op ws) := by
  obtain ⟨reports, workspace, log⟩ := runOperation_reports setting registry op ws
  rw [pass] at reports
  obtain ⟨status, result, well⟩ := reports
  rw [← workspace, ← log, runFrom, Action.bind_run]
  generalize runOperation setting registry op ws = outcome at result ⊢
  obtain ⟨_, after, entries⟩ := outcome
  cases result
  simp only [Outcome.andThen_ok, well, if_true]

theorem runFrom_stops {op : Operation} {ws : Workspace} {code : StatusCode} {message : Text}
    (fails : verdict setting registry op ws = .stops code message) (index : Nat)
    (rest : List Operation) : runFrom setting registry index (op :: rest) ws =
      ⟨.ok ⟨code, message, some index, some op.type⟩, effect setting registry op ws,
        told setting registry op ws ++ [failureEntry index op message]⟩ := by
  obtain ⟨reports, workspace, log⟩ := runOperation_reports setting registry op ws
  rw [fails] at reports
  obtain ⟨status, result, bad, rfl, rfl⟩ := reports
  rw [← workspace, ← log, runFrom, Action.bind_run]
  generalize runOperation setting registry op ws = outcome at result ⊢
  obtain ⟨_, after, entries⟩ := outcome
  cases result
  simp only [Outcome.andThen_ok, bad, Bool.false_eq_true, if_false, Action.bind_run,
    Action.tell_run]
  rfl

theorem runFrom_escapes {op : Operation} {ws : Workspace} {fault : Fault}
    (fails : verdict setting registry op ws = .escapes fault) (index : Nat)
    (rest : List Operation) :
    runFrom setting registry index (op :: rest) ws =
      ⟨.error (.fault fault), effect setting registry op ws, told setting registry op ws⟩ := by
  obtain ⟨reports, workspace, log⟩ := runOperation_reports setting registry op ws
  rw [fails] at reports
  rw [← workspace, ← log, runFrom, Action.bind_run]
  generalize runOperation setting registry op ws = outcome at reports ⊢
  obtain ⟨_, after, entries⟩ := outcome
  cases reports
  rfl

theorem runFrom_append {earlier : List Operation} {ws : Workspace}
    (pass : AllPass setting registry earlier ws) (index : Nat) (rest : List Operation) :
    runFrom setting registry index (earlier ++ rest) ws =
      (runFrom setting registry (index + earlier.length) rest
        (effects setting registry earlier ws)).logged (allTold setting registry earlier ws) := by
  induction earlier generalizing index ws with
  | nil => rfl
  | cons op earlier ih =>
      obtain ⟨first, others⟩ := pass
      rw [List.cons_append, runFrom_passes first, ih others, List.length_cons]
      simp only [Outcome.logged, allTold, List.append_assoc, effects, List.foldl_cons]
      rw [Nat.add_assoc, Nat.add_comm 1]

theorem allPass_append (earlier later : List Operation) (ws : Workspace) :
    AllPass setting registry (earlier ++ later) ws ↔ AllPass setting registry earlier ws ∧
      AllPass setting registry later (effects setting registry earlier ws) := by
  induction earlier generalizing ws with
  | nil => simp [AllPass, effects]
  | cons op rest ih =>
      rw [List.cons_append, AllPass, AllPass, ih, and_assoc]
      rfl

theorem done_of_passes {op : Operation} {ws : Workspace}
    (pass : verdict setting registry op ws = .passes) :
    ∃ handler, registry.handler? op.type = some handler ∧
      ∃ answer, (handler.work setting op ws).result = .ok answer := by
  unfold verdict at pass
  split at pass
  · cases pass
  · rename_i handler found
    refine ⟨handler, found, ?_⟩
    split at pass
    · rename_i done
      exact ⟨none, done⟩
    · rename_i status done
      exact ⟨some status, done⟩
    · cases pass
    · cases pass

theorem first_failure (setting : Setting) (registry : Registry) (ops : List Operation)
    (ws : Workspace) : AllPass setting registry ops ws ∨
      ∃ earlier op later, ops = earlier ++ op :: later ∧ AllPass setting registry earlier ws ∧
        verdict setting registry op (effects setting registry earlier ws) ≠ .passes := by
  induction ops generalizing ws with
  | nil => exact Or.inl trivial
  | cons op rest ih =>
      by_cases pass : verdict setting registry op ws = .passes
      · rcases ih (effect setting registry op ws) with
          all | ⟨earlier, failing, later, rfl, before, fails⟩
        · exact Or.inl ⟨pass, all⟩
        · exact Or.inr ⟨op :: earlier, failing, later, rfl, ⟨pass, before⟩, fails⟩
      · exact Or.inr ⟨[], op, rest, rfl, trivial, pass⟩

theorem execute_of_failFast {p : Program} {ws : Workspace} {outcome : Outcome Status}
    (allowed : FailFast setting registry ws p.operations outcome) :
    p.execute setting registry ws = outcome := by
  unfold execute
  generalize p.operations = ops at allowed
  cases allowed with
  | completes ops pass =>
      have run := runFrom_append pass 0 []
      rw [List.append_nil] at run
      rw [run]
      simp [runFrom, Outcome.logged]
  | stops earlier op later code message pass fails =>
      rw [runFrom_append pass, runFrom_stops fails, effects_concat, allTold_concat]
      simp [Outcome.logged]
  | escapes earlier op later fault pass fails =>
      rw [runFrom_append pass, runFrom_escapes fails, effects_concat, allTold_concat]
      rfl

theorem failFast_execute (setting : Setting) (registry : Registry) (p : Program) (ws : Workspace) :
    FailFast setting registry ws p.operations (p.execute setting registry ws) := by
  suffices allowed : ∃ outcome, FailFast setting registry ws p.operations outcome by
    obtain ⟨outcome, allowed⟩ := allowed
    rw [execute_of_failFast allowed]
    exact allowed
  rcases first_failure setting registry p.operations ws with
    pass | ⟨earlier, op, later, split, pass, fails⟩
  · exact ⟨_, .completes p.operations pass⟩
  · -- The first operation that does not pass tells which outcome it is.
    rw [split]
    cases ending : verdict setting registry op (effects setting registry earlier ws) with
    | passes => exact absurd ending fails
    | stops code message => exact ⟨_, .stops earlier op later code message pass ending⟩
    | escapes fault => exact ⟨_, .escapes earlier op later fault pass ending⟩

/-- A run has the one outcome that the reference allows. -/
theorem execute_eq_iff_failFast (setting : Setting) (registry : Registry) (p : Program)
    (ws : Workspace) (outcome : Outcome Status) :
    p.execute setting registry ws = outcome ↔
      FailFast setting registry ws p.operations outcome := by
  constructor
  · rintro rfl
    exact failFast_execute setting registry p ws
  · exact execute_of_failFast

end Run

def Escapes (setting : Setting) (op : Operation) (ws : Workspace) (fault : Fault) : Prop :=
  (op.type = "Load" ∧ Handler.LoadEscapes setting op ws fault) ∨
  (op.type = "LoadImage" ∧ Handler.ImageEscapes setting op ws fault) ∨
  (op.type = "Conv" ∧ Handler.ConvolutionEscapes op ws fault)

theorem verdict_escapes_iff_of_handler {setting : Setting} {registry : Registry} {op : Operation}
    {handler : Handler} (found : registry.handler? op.type = some handler) (ws : Workspace)
    (fault : Fault) : verdict setting registry op ws = .escapes fault ↔
      (handler.work setting op ws).result = .error (.fault fault) := by
  simp only [verdict, found]
  generalize (handler.work setting op ws).result = result
  rcases result with (e | other) | (_ | status)
  · simp
  · simp
  · simp
  · by_cases well : status.code = .ok <;> simp [well]

theorem verdict_escapes_iff (setting : Setting) (op : Operation) (ws : Workspace) (fault : Fault) :
    verdict setting .builtIn op ws = .escapes fault ↔ Escapes setting op ws fault := by
  have apart : ("Load" : Text) ≠ "LoadImage" ∧ ("Load" : Text) ≠ "Conv" ∧
      ("LoadImage" : Text) ≠ "Conv" := by decide
  obtain ⟨loadImage, loadConv, imageConv⟩ := apart
  unfold Escapes
  -- At most one of the three applies, for the names differ.
  by_cases isLoad : op.type = "Load"
  · have found : Registry.builtIn.handler? op.type = some ⟨0, Handler.load⟩ := by rw [isLoad]; rfl
    rw [verdict_escapes_iff_of_handler found, Handler.load_fault_iff]
    simp [isLoad, loadImage, loadConv]
  · by_cases isImage : op.type = "LoadImage"
    · have found : Registry.builtIn.handler? op.type = some ⟨1, Handler.loadImage⟩ := by
        rw [isImage]; rfl
      rw [verdict_escapes_iff_of_handler found, Handler.loadImage_fault_iff]
      simp [isImage, loadImage.symm, imageConv]
    · by_cases isConv : op.type = "Conv"
      · have found : Registry.builtIn.handler? op.type = some ⟨2, Handler.convolution⟩ := by
          rw [isConv]; rfl
        rw [verdict_escapes_iff_of_handler found, Handler.convolution_fault_iff]
        simp [isConv, loadConv.symm, imageConv.symm]
      · have missing : Registry.builtIn.handler? op.type = none := by
          refine List.lookup_eq_none_iff.mpr fun entry listed => bne_iff_ne.mpr ?_
          simp only [Registry.builtIn, List.mem_cons, List.not_mem_nil, or_false] at listed
          rcases listed with rfl | rfl | rfl
          · exact isLoad
          · exact isImage
          · exact isConv
        simp [verdict, missing, isLoad, isImage, isConv]

theorem code_ne_ok_of_stops {setting : Setting} {registry : Registry} {op : Operation}
    {ws : Workspace} {code : StatusCode} {message : Text}
    (fails : verdict setting registry op ws = .stops code message) : code ≠ .ok := by
  unfold verdict at fails
  split at fails
  · cases fails
    exact StatusCode.noConfusion
  · split at fails
    · cases fails
    · split at fails
      · cases fails
      · rename_i bad
        cases fails
        exact bad
    · cases fails
      exact code_ne_ok _
    · cases fails

/-- A status of a run: success, or the failure of one of its operations, which it names. -/
def IsReport (ops : List Operation) (status : Status) : Prop :=
  status = .success ∨ ∃ (i : Nat) (op : Operation), ops[i]? = some op ∧ status.isOk = false ∧
    status.index = some (i : Int) ∧ status.type = some op.type

theorem isWritable_of_read {text : Text} {manifest : Json} {p : Program}
    (parsed : Json.read text = .ok manifest) (made : ofManifest manifest = .ok p) :
    ∀ op ∈ p.operations, op.IsWritable := by
  obtain ⟨entries, ⟨members, rfl, listed⟩, each⟩ :=
    ((ofManifest_eq_ok_iff manifest p).mp made).operations
  have writable : (Json.array entries).isWritable = true :=
    (Json.areWritableMembers_iff members).mp (Json.isWritable_of_read parsed) _
      (Json.mem_of_member listed)
  exact forall_of_forall₂ each ((Json.areWritable_iff entries).mp writable)
    fun entry op fits read => Operation.isWritable_of_ofJson fits read

/-- A run of the operations of the library ends in a status that reports it, unless it ends in a
fault; that happens exactly when an operation does so and all others in front of it have passed. No
operation of a manifest that was read from a text has a field that is in the way of its own error.
-/
theorem execute_escapes_iff (setting : Setting) (p : Program) (ws : Workspace) :
    ((∃ fault, (p.execute setting .builtIn ws).result = .error (.fault fault)) ∨
      ∃ status, (p.execute setting .builtIn ws).result = .ok status ∧
        IsReport p.operations status) ∧
    (∀ fault, (p.execute setting .builtIn ws).result = .error (.fault fault) ↔
      ∃ earlier op later, p.operations = earlier ++ op :: later ∧
        AllPass setting .builtIn earlier ws ∧
        Escapes setting op (effects setting .builtIn earlier ws) fault) ∧
    ∀ text manifest, Json.read text = .ok manifest → ofManifest manifest = .ok p →
      ∀ op ∈ p.operations, ∀ before, ¬ Handler.LoadRequest.Unworded op ∧
        ¬ Handler.ImageRequest.Unworded op ∧ ¬ Handler.Unworded op before := by
  refine ⟨?_, ?_, ?_⟩
  · have allowed := failFast_execute setting .builtIn p ws
    generalize p.execute setting .builtIn ws = outcome at allowed
    generalize p.operations = ops at allowed
    cases allowed with
    | completes ops pass => exact Or.inr ⟨.success, rfl, Or.inl rfl⟩
    | escapes earlier op later fault pass fails => exact Or.inl ⟨fault, rfl⟩
    | stops earlier op later code message pass fails =>
        refine Or.inr ⟨_, rfl, Or.inr ⟨earlier.length, op, by simp, ?_, rfl, rfl⟩⟩
        exact beq_eq_false_iff_ne.mpr (code_ne_ok_of_stops fails)
  · intro fault
    constructor
    · intro failed
      have allowed := failFast_execute setting .builtIn p ws
      generalize p.execute setting .builtIn ws = outcome at failed allowed
      generalize p.operations = ops at allowed ⊢
      cases allowed with
      | completes ops pass => cases failed
      | stops earlier op later code message pass fails => cases failed
      | escapes earlier op later other pass fails =>
          cases failed
          exact ⟨earlier, op, later, rfl, pass, (verdict_escapes_iff setting op _ fault).mp fails⟩
    · rintro ⟨earlier, op, later, split, pass, escapes⟩
      have fails := (verdict_escapes_iff setting op _ fault).mpr escapes
      have allowed : FailFast setting .builtIn ws (earlier ++ op :: later) _ :=
        .escapes earlier op later fault pass fails
      rw [← split] at allowed
      rw [execute_of_failFast allowed]
  · intro text manifest parsed made op member
    exact Handler.worded_of_isWritable (isWritable_of_read parsed made op member)

def emptyRows : Json :=
  .object [("operations", .array [.object [("type", .text "Load"), ("outputs", .array [.text "a"]),
    ("fileName", .text "a.bin"), ("dataType", .text "single"),
    ("shape", .array [.int 0, .int 2])]])]

/-- Where there is a file for it, a tensor with a zero among several dimensions ends the run in a
fault, though the request is well-formed and the tensor is made. -/
theorem execute_escapes_empty_rows : ∃ p, ofManifest emptyRows = .ok p ∧
    (∀ op ∈ p.operations, op.type = "Load" ∨ op.type = "LoadImage" ∨ op.type = "Conv") ∧
    (p.execute ⟨{}, .ofContents fun _ => .ok []⟩ .builtIn {}).result =
      .error (.fault .zeroDimensionView) := by
  refine ⟨_, rfl, ?_, rfl⟩
  intro op listed
  rw [List.mem_singleton.mp listed]
  exact Or.inl rfl

end TensorBundle.Program
