import Mathlib
import TensorBundle.FileTree
import TensorBundle.Proofs.Handler.Settling
import TensorBundle.Proofs.Program.Independence
/-!
Running a program again. Once it has succeeded under the strict policy for resources, every loaded
output is there, and every convolution is that of the inputs that there are, if none writes what
another needs. A second run then finds nothing to do, whatever has become of the files.
-/
namespace TensorBundle

namespace Operation

def computes? (op : Operation) : Option Text := if op.type = "Conv" then op.outputs.head? else none

/-- No convolution is stored under an input of its own or of an earlier one, and no two of them
under one name. -/
structure Layered (ops : List Operation) : Prop where
  own : ∀ op ∈ ops, ∀ name, op.computes? = some name → name ∉ op.reads
  apart : ops.Pairwise fun earlier later => ∀ name, later.computes? = some name →
    name ∉ earlier.reads ∧ earlier.computes? ≠ some name

theorem computes_of_convolution {op : Operation} (typed : BuiltIn.convolution.type = op.type) :
    op.computes? = op.outputs.head? ∧ op.reads = op.inputs.take 3 := by
  have isConv : op.type = "Conv" := typed.symm
  rw [computes?, reads, if_pos isConv, if_pos isConv]
  exact ⟨rfl, rfl⟩

end Operation

namespace Program

/-- An operation has a handler that has nothing left to do. -/
def Settled (seen : Workspace → Prop) (op : Operation) (ws : Workspace) : Prop :=
  ∃ b : BuiltIn, b.type = op.type ∧ Handler.Settled seen op ws b

section Step
variable {setting : Setting} {op : Operation} {ws : Workspace} {seen : Workspace → Prop}

theorem work_of_passes (pass : verdict setting .builtIn op ws = .passes) :
    ∃ b : BuiltIn, b.type = op.type ∧ (b.work setting op ws).result = .ok (some .success) ∧
      effect setting .builtIn op ws = (b.work setting op ws).workspace := by
  obtain ⟨handler, found, answer, done⟩ := done_of_passes pass
  obtain ⟨b, typed, same⟩ := BuiltIn.of_handler found
  rw [same] at done
  refine ⟨b, typed, ?_, ?_⟩
  · rw [done, b.work_answer done]
  · simp only [effect, found, same]

theorem settled_of_passes (strict : setting.config.strictResources = true) (orderly : ws.Orderly)
    (now : seen ws) (own : ∀ name, op.computes? = some name → name ∉ op.reads)
    (pass : verdict setting .builtIn op ws = .passes) :
    Settled seen op (effect setting .builtIn op ws) := by
  obtain ⟨b, typed, done, made⟩ := work_of_passes pass
  rw [made]
  refine ⟨b, typed, b.work_settles strict orderly now ?_ done⟩
  rintro rfl
  obtain ⟨computes, reads⟩ := Operation.computes_of_convolution typed
  rw [computes, reads] at own
  exact own

theorem effect_keepsPresent (off : setting.config.forceReload = false) (orderly : ws.Orderly)
    (pass : verdict setting .builtIn op ws = .passes) {name : Text}
    (present : ws.contains name = true) (other : op.computes? ≠ some name) :
    Workspace.KeepsEntry name ws (effect setting .builtIn op ws) := by
  by_cases named : op.outputs.head? = some name
  · obtain ⟨b, typed, done, made⟩ := work_of_passes pass
    rw [made, b.work_of_present off done named present]
    · exact Workspace.keepsEntry_refl name ws
    · rintro rfl
      rw [(Operation.computes_of_convolution typed).1] at other
      exact other named
  · exact Handler.outputEffect_keepsEntry (effect_outputEffect setting op ws) orderly named

theorem contains_effect (strict : setting.config.strictResources = true) (orderly : ws.Orderly)
    (pass : verdict setting .builtIn op ws = .passes) {name : Text}
    (present : ws.contains name = true) :
    (effect setting .builtIn op ws).contains name = true := by
  by_cases named : op.outputs.head? = some name
  · obtain ⟨b, typed, done, made⟩ := work_of_passes pass
    rw [made]
    exact b.work_stores strict done named
  · have keeps := Handler.outputEffect_keepsEntry (effect_outputEffect setting op ws) orderly named
    rw [Workspace.contains, keeps.number]
    exact present

/-- What is settled stays so behind an operation that passes, if that computes no other value for
its output or its inputs. -/
theorem settled_effect (strict : setting.config.strictResources = true)
    (off : setting.config.forceReload = false) (orderly : ws.Orderly) {later : Operation}
    (pass : verdict setting .builtIn later ws = .passes)
    (apart : ∀ name, later.computes? = some name → name ∉ op.reads ∧ op.computes? ≠ some name)
    (settled : Settled seen op ws) : Settled seen op (effect setting .builtIn later ws) := by
  obtain ⟨b, typed, settled⟩ := settled
  refine ⟨b, typed, Handler.settled_of_kept settled ?_ ?_⟩
  · intro name named
    exact contains_effect strict orderly pass (Handler.contains_of_settled settled named)
  · rintro rfl name touched
    obtain ⟨computes, reads⟩ := Operation.computes_of_convolution typed
    rw [computes, reads] at apart
    apply Workspace.content_of_keepsEntry
    apply effect_keepsPresent off orderly pass
    · rcases touched with named | read
      · exact Handler.contains_of_settled settled named
      · exact Handler.contains_of_settled_read settled read
    · intro computed
      obtain ⟨unread, different⟩ := apart name computed
      rcases touched with named | read
      · exact different named
      · exact unread read

/-- A settled operation makes nothing of the workspace, and passes if there is memory to work on as
there once was. -/
theorem step_of_settled (off : setting.config.forceReload = false)
    (settled : Settled seen op ws) :
    effect setting .builtIn op ws = ws ∧
      (ws.KeepsRoom seen → verdict setting .builtIn op ws = .passes) := by
  obtain ⟨b, typed, settled⟩ := settled
  obtain ⟨handler, found, same⟩ := b.handler_of_type typed
  obtain ⟨nothing, succeeds⟩ := BuiltIn.work_of_settled settled off
  simp only [effect, verdict, found, same]
  constructor
  · exact nothing
  · intro keeps
    rw [succeeds keeps]
    rfl

end Step

section Run
variable {setting : Setting} {seen : Workspace → Prop} {ws : Workspace} {ops : List Operation}

theorem settled_effects (strict : setting.config.strictResources = true)
    (off : setting.config.forceReload = false) (orderly : ws.Orderly) {op : Operation}
    (pass : AllPass setting .builtIn ops ws)
    (apart : ∀ later ∈ ops, ∀ name, later.computes? = some name →
      name ∉ op.reads ∧ op.computes? ≠ some name)
    (settled : Settled seen op ws) : Settled seen op (effects setting .builtIn ops ws) := by
  induction ops generalizing ws with
  | nil => exact settled
  | cons first rest ih =>
      obtain ⟨passes, others⟩ := pass
      obtain ⟨firstApart, restApart⟩ := List.forall_mem_cons.mp apart
      apply ih (effect_orderly orderly first) others restApart
      exact settled_effect strict off orderly passes firstApart settled

/-- After a run in which all operations pass, all of them are settled. -/
theorem all_settled (strict : setting.config.strictResources = true)
    (off : setting.config.forceReload = false) (orderly : ws.Orderly)
    (layered : Operation.Layered ops) (pass : AllPass setting .builtIn ops ws)
    (saw : ∀ earlier, earlier <+: ops → seen (effects setting .builtIn earlier ws)) :
    ∀ op ∈ ops, Settled seen op (effects setting .builtIn ops ws) := by
  induction ops generalizing ws with
  | nil => exact nofun
  | cons first rest ih =>
      obtain ⟨passes, others⟩ := pass
      obtain ⟨firstApart, restApart⟩ := List.pairwise_cons.mp layered.apart
      obtain ⟨firstOwn, restOwn⟩ := List.forall_mem_cons.mp layered.own
      have after : (effect setting .builtIn first ws).Orderly := effect_orderly orderly first
      rw [List.forall_mem_cons]
      constructor
      · apply settled_effects strict off after others firstApart
        exact settled_of_passes strict orderly (saw [] List.nil_prefix) firstOwn passes
      · apply ih after ⟨restOwn, restApart⟩ others
        intro earlier before
        exact saw (first :: earlier) (List.cons_prefix_cons.mpr ⟨rfl, before⟩)

theorem run_of_settled (off : setting.config.forceReload = false)
    (settled : ∀ op ∈ ops, Settled seen op ws) :
    effects setting .builtIn ops ws = ws ∧
      (ws.KeepsRoom seen → AllPass setting .builtIn ops ws) := by
  induction ops with
  | nil => exact ⟨rfl, fun _ => trivial⟩
  | cons first rest ih =>
      obtain ⟨firstSettled, restSettled⟩ := List.forall_mem_cons.mp settled
      obtain ⟨nothing, passes⟩ := step_of_settled off firstSettled
      obtain ⟨same, others⟩ := ih restSettled
      constructor
      · change effects setting .builtIn rest (effect setting .builtIn first ws) = ws
        rw [nothing, same]
      · intro keeps
        rw [AllPass, nothing]
        exact ⟨passes keeps, others keeps⟩

def PassesThrough (setting : Setting) (ops : List Operation) (ws past : Workspace) : Prop :=
  ∃ earlier, earlier <+: ops ∧ past = effects setting .builtIn earlier ws

theorem memoryAfter_effects (setting : Setting) (ops : List Operation) (ws : Workspace) :
    ∃ shift ≤ ops.length, ∀ made,
      (effects setting .builtIn ops ws).memoryAfter made = ws.memoryAfter (shift + made) := by
  induction ops generalizing ws with
  | nil =>
      refine ⟨0, le_rfl, ?_⟩
      intro made
      rw [Nat.zero_add]
      rfl
  | cons first rest ih =>
      obtain ⟨one, small, head⟩ :=
        Workspace.memoryAfter_of_continues (effect_continues setting first ws)
      obtain ⟨others, few, tail⟩ := ih (effect setting .builtIn first ws)
      refine ⟨one + others, ?_, ?_⟩
      · rw [List.length_cons]
        omega
      · intro made
        rw [Nat.add_assoc, ← head]
        exact tail made

theorem keepsRoom_of_steady (setting : Setting) (p : Program) (steady : ws.Steady (p.size + 1)) :
    (p.execute setting .builtIn ws).workspace.KeepsRoom
      (PassesThrough setting p.operations ws) := by
  have same : ∀ earlier, earlier <+: p.operations →
      (effects setting .builtIn earlier ws).workingRoom = ws.workingRoom := by
    intro earlier before
    have few : earlier.length ≤ p.size := before.length_le
    obtain ⟨shift, small, moved⟩ := memoryAfter_effects setting earlier ws
    funext type shape
    rw [Workspace.workingRoom, Workspace.available_eq_memoryAfter, moved,
      steady.working _ (by omega)]
  have begun : started setting .builtIn p.operations ws <+: p.operations := by
    rw [← take_length_started]
    exact List.take_prefix _ _
  rintro past ⟨earlier, before, rfl⟩ type shape room
  rw [workspace_execute, same _ begun]
  rw [same earlier before] at room
  exact room

/-- Running a program again. After a run that succeeds under the strict policy and without loading
what exists, another run in whatever files leaves the workspace exactly as it is: every name, every
handle and all that they hold. It succeeds as well, if there still is the memory to work on that
there was in the first run. -/
theorem execute_again (reachable : ws.Reachable) (setting later : Setting)
    (strict : setting.config.strictResources = true) (off : setting.config.forceReload = false)
    (still : later.config.forceReload = false) (p : Program)
    (layered : Operation.Layered p.operations) (status : Status)
    (done : (p.execute setting .builtIn ws).result = .ok status) (good : status.isOk = true) :
    let after := (p.execute setting .builtIn ws).workspace
    (p.execute later .builtIn after).workspace = after ∧
      (after.KeepsRoom (PassesThrough setting p.operations ws) →
        (p.execute later .builtIn after).result = .ok .success) := by
  have pass := allPass_of_ok done good
  have settled : ∀ op ∈ p.operations, Settled (PassesThrough setting p.operations ws) op
      (effects setting .builtIn p.operations ws) := by
    apply all_settled strict off (Workspace.orderly_of_reachable reachable) layered pass
    intro earlier before
    exact ⟨earlier, before, rfl⟩
  rw [execute_of_failFast (.completes p.operations pass)]
  constructor
  · have begun : ∀ op ∈ started later .builtIn p.operations
        (effects setting .builtIn p.operations ws), Settled (PassesThrough setting p.operations ws)
          op (effects setting .builtIn p.operations ws) := by
      intro op member
      rw [← take_length_started] at member
      exact settled op (List.mem_of_mem_take member)
    rw [workspace_execute]
    exact (run_of_settled still begun).1
  · intro keeps
    rw [execute_of_failFast (.completes p.operations ((run_of_settled still settled).2 keeps))]

/-- Two tensors are loaded and convolved, and then their files are gone. -/
theorem execute_again_unopened :
    let present : Setting :=
      ⟨{}, .ofContents fun path =>
        .ok (if path = "x.bin" then [0, 0, 64, 64] else [0, 0, 160, 64])⟩
    let gone : Setting := ⟨{}, .ofContents fun _ => .error .notFound⟩
    let number (name file : Text) (shape : List Json) : Operation :=
      { type := "Load", outputs := [name],
        fields :=
          [("fileName", .text file), ("dataType", .text "single"), ("shape", .array shape)] }
    let p : Program :=
      { operations := [number "x" "x.bin" [.int 1, .int 1, .int 1],
          number "w" "w.bin" [.int 1, .int 1, .int 1, .int 1],
          { type := "Conv", inputs := ["x", "w"], outputs := ["y"] }] }
    let after := (p.execute present .builtIn {}).workspace
    after.content? "y" = some (.holding ⟨.float32, [1, 1, 1, 1], [0, 0, 112, 65]⟩) ∧
      (p.execute gone .builtIn after).result = .ok .success ∧
      (p.execute gone .builtIn after).workspace = after := by
  intro present gone number p after
  have reachable : Workspace.Reachable {} := ⟨[], [], [], rfl⟩
  have done : (p.execute present .builtIn {}).result = .ok .success := by
    apply ok_of_toOption
    decide +kernel
  have layered : Operation.Layered p.operations := by
    constructor
    · decide
    · decide
  have steady : Workspace.Steady {} (p.size + 1) := ⟨fun _ _ => rfl, fun _ _ => rfl⟩
  obtain ⟨same, succeeds⟩ :=
    execute_again reachable present gone rfl rfl rfl p layered .success done rfl
  refine ⟨?_, succeeds (keepsRoom_of_steady present p steady), same⟩
  decide +kernel

end Run

end Program
end TensorBundle
