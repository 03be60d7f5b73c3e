import Mathlib
import TensorBundle.FileTree
import TensorBundle.Proofs.Handler.Locality
import TensorBundle.Proofs.Program.Frame
/-!
Independent operations in any order. Where no operation writes what another reads or writes, each
does in a run what it would do alone, so neither the success of the run nor the tensors that it
leaves depend on the order.
-/
namespace TensorBundle

namespace Operation

def reads (op : Operation) : List Text := if op.type = "Conv" then op.inputs.take 3 else []

/-- Neither of two operations writes what the other reads or writes. -/
structure Independent (a b : Operation) : Prop where
  outputs : ∀ name, a.outputs.head? = some name → b.outputs.head? ≠ some name
  notRead : ∀ name, a.outputs.head? = some name → name ∉ b.reads
  readsNot : ∀ name, b.outputs.head? = some name → name ∉ a.reads

theorem independent_symm {a b : Operation} (independent : Independent a b) : Independent b a where
  outputs name first second := independent.outputs name second first
  notRead := independent.readsNot
  readsNot := independent.notRead

end Operation

namespace Workspace

def memoryAfter (ws : Workspace) (made : Nat) : Memory :=
  ws.memory[ws.handles.length + made]?.getD {}

/-- While fewer than a number of further handles are made, whether there is memory for a tensor or
an array to work on depends on its type and shape only. -/
structure Steady (ws : Workspace) (count : Nat) : Prop where
  tensor : ∀ made < count, Tensor.canAllocate (ws.memoryAfter made).tensor = ws.room
  working : ∀ made < count, Tensor.canAllocate (ws.memoryAfter made).working = ws.workingRoom

section Steady
variable {before after : Workspace}

theorem memoryAfter_of_continues (continues : Continues before after) :
    ∃ shift ≤ 1, ∀ made, after.memoryAfter made = before.memoryAfter (shift + made) := by
  unfold memoryAfter
  rw [continues.memory]
  rcases continues.made with same | more
  · refine ⟨0, by decide, ?_⟩
    intro made
    rw [same, Nat.zero_add]
  · refine ⟨1, le_rfl, ?_⟩
    intro made
    rw [more, Nat.add_assoc]

theorem available_eq_memoryAfter (ws : Workspace) : ws.available = ws.memoryAfter 0 := rfl

theorem room_of_continues {count : Nat} (steady : before.Steady count) (several : 1 < count)
    (continues : Continues before after) :
    after.room = before.room ∧ after.workingRoom = before.workingRoom := by
  obtain ⟨shift, small, same⟩ := memoryAfter_of_continues continues
  have now : after.available = before.memoryAfter shift := by
    rw [available_eq_memoryAfter, same, Nat.add_zero]
  constructor
  · funext type shape
    rw [room, now, steady.tensor shift (by omega)]
  · funext type shape
    rw [workingRoom, now, steady.working shift (by omega)]

theorem steady_of_continues {count : Nat} (steady : before.Steady (count + 1))
    (continues : Continues before after) : after.Steady count := by
  obtain ⟨shift, small, same⟩ := memoryAfter_of_continues continues
  constructor
  · intro made early
    have room := (room_of_continues steady (by omega) continues).1
    rw [same, room]
    exact steady.tensor (shift + made) (by omega)
  · intro made early
    have room := (room_of_continues steady (by omega) continues).2
    rw [same, room]
    exact steady.working (shift + made) (by omega)

end Steady

end Workspace

namespace BuiltIn

theorem left_of_agree (b : BuiltIn) (setting : Setting) {op : Operation} {name : Text}
    {one other : Workspace} (typed : b.type = op.type) (named : op.outputs.head? = some name)
    (agree : Workspace.Agree (name :: op.reads) one other) :
    Handler.left? (b.work setting op other) name = Handler.left? (b.work setting op one) name := by
  cases b with
  | load =>
      apply Handler.left_load_of_agree named
      exact Workspace.agree_of_subset (by simp) agree
  | loadImage =>
      apply Handler.left_loadImage_of_agree named
      exact Workspace.agree_of_subset (by simp) agree
  | convolution =>
      change Handler.left? (Handler.convolution setting op other) name =
        Handler.left? (Handler.convolution setting op one) name
      apply Handler.left_convolution_of_agree named
      have isConv : op.type = "Conv" := typed.symm
      rw [Operation.reads, if_pos isConv] at agree
      exact agree

theorem head_outputs_of_ok (b : BuiltIn) {setting : Setting} {op : Operation} {ws : Workspace}
    {answer : Option Status} (done : (b.work setting op ws).result = .ok answer) :
    ∃ name, op.outputs.head? = some name := by
  cases b with
  | load =>
      obtain ⟨r, request⟩ := Handler.exists_loadRequest done
      exact ⟨r.name, Handler.LoadRequest.head_outputs request⟩
  | loadImage =>
      obtain ⟨r, request⟩ := Handler.exists_imageRequest done
      exact ⟨r.name, Handler.ImageRequest.head_outputs request⟩
  | convolution =>
      change (Handler.convolution setting op ws).result = .ok answer at done
      have run := (Prod.ext_iff.mp (Handler.convolution_run setting op ws)).1
      have found := Handler.convolved_convolved op ws
      dsimp only at run
      rw [done] at run
      generalize (Handler.convolved op ws).result = value at run found
      cases found with
      | rejected | unworded | cramped | tooLarge | unnamed => cases run
      | done x filters bias g name y prepared room fits named =>
          exact ⟨name, (op.output_zero_iff name).mp named⟩

end BuiltIn

namespace Program

section Step
variable {setting : Setting} {op : Operation}

theorem left_eq_some_iff {registry : Registry} {handler : Handler}
    (found : registry.handler? op.type = some handler) (ws : Workspace) (name : Text)
    (content : Option Handle) :
    Handler.left? (handler.work setting op ws) name = some content ↔
      verdict setting registry op ws = .passes ∧
        (effect setting registry op ws).content? name = content := by
  simp only [verdict, effect, found]
  generalize handler.work setting op ws = outcome
  rcases outcome with ⟨(e | fault) | (_ | status), after, log⟩
  · simp [Handler.left?]
  · simp [Handler.left?]
  · simp [Handler.left?, statusOf, Status.isOk, Status.success]
  · by_cases well : status.code = .ok <;> simp [Handler.left?, statusOf, Status.isOk, well]

theorem head_outputs_of_passes {ws : Workspace}
    (pass : verdict setting .builtIn op ws = .passes) : ∃ name, op.outputs.head? = some name := by
  obtain ⟨handler, found, answer, done⟩ := done_of_passes pass
  obtain ⟨b, _, same⟩ := BuiltIn.of_handler found
  rw [same] at done
  exact b.head_outputs_of_ok done

/-- An operation that passes in one workspace passes in every other that agrees with it on what the
operation writes and reads, and leaves the same there. -/
theorem passes_of_agree {one other : Workspace} (pass : verdict setting .builtIn op one = .passes)
    (agree : ∀ name, op.outputs.head? = some name →
      Workspace.Agree (name :: op.reads) one other) :
    verdict setting .builtIn op other = .passes ∧ ∀ name, op.outputs.head? = some name →
      (effect setting .builtIn op other).content? name =
        (effect setting .builtIn op one).content? name := by
  obtain ⟨output, named⟩ := head_outputs_of_passes pass
  cases found : Registry.builtIn.handler? op.type with
  | none =>
      simp only [verdict, found] at pass
      cases pass
  | some handler =>
      obtain ⟨b, typed, same⟩ := BuiltIn.of_handler found
      have left := b.left_of_agree setting typed named (agree output named)
      rw [← same, (left_eq_some_iff found one output _).mpr ⟨pass, rfl⟩,
        left_eq_some_iff found] at left
      obtain ⟨passes, content⟩ := left
      constructor
      · exact passes
      · intro name isName
        rw [named] at isName
        cases isName
        exact content

end Step

section Run
variable {setting : Setting}

theorem effect_continues (setting : Setting) (op : Operation) (ws : Workspace) :
    ws.Continues (effect setting .builtIn op ws) := by
  rcases effect_outputEffect setting op ws with same | ⟨output, _, changed⟩
  · rw [same]
    exact Workspace.continues_refl ws
  · exact Workspace.effect_continues changed

/-- What an independent operation makes of a workspace is of no account for another. -/
theorem agree_effect {ws : Workspace} (orderly : ws.Orderly) {count : Nat}
    (steady : ws.Steady count) (several : 1 < count) {op other : Operation}
    (independent : op.Independent other) {name : Text} (named : other.outputs.head? = some name) :
    Workspace.Agree (name :: other.reads) ws (effect setting .builtIn op ws) := by
  have continues := effect_continues setting op ws
  obtain ⟨room, workingRoom⟩ := Workspace.room_of_continues steady several continues
  constructor
  · exact continues.baseName
  · intro touched member
    apply Workspace.content_of_keepsEntry
    apply Handler.outputEffect_keepsEntry (effect_outputEffect setting op ws) orderly
    intro written
    rcases List.mem_cons.mp member with rfl | read
    · exact independent.outputs touched written named
    · exact independent.notRead touched written read
  · exact room
  · exact workingRoom

section Behind
variable {ws : Workspace} {first : Operation} {rest : List Operation}

theorem agree_behind (orderly : ws.Orderly) (steady : ws.Steady (first :: rest).length)
    (apart : ∀ op ∈ rest, first.Independent op) {op : Operation} (member : op ∈ rest) (name : Text)
    (named : op.outputs.head? = some name) :
    Workspace.Agree (name :: op.reads) ws (effect setting .builtIn first ws) := by
  have several : 1 < (first :: rest).length := by
    have inhabited := List.length_pos_of_mem member
    rw [List.length_cons]
    omega
  exact agree_effect orderly steady several (apart op member) named

theorem passes_behind_iff (orderly : ws.Orderly) (steady : ws.Steady (first :: rest).length)
    (apart : ∀ op ∈ rest, first.Independent op) {op : Operation} (member : op ∈ rest) :
    verdict setting .builtIn op (effect setting .builtIn first ws) = .passes ↔
      verdict setting .builtIn op ws = .passes := by
  constructor
  · intro pass
    refine (passes_of_agree pass ?_).1
    intro name named
    exact Workspace.agree_symm (agree_behind orderly steady apart member name named)
  · intro pass
    exact (passes_of_agree pass (agree_behind orderly steady apart member)).1

end Behind

variable {ws : Workspace} {ops : List Operation}

theorem allPass_iff_each (orderly : ws.Orderly) (steady : ws.Steady ops.length)
    (independent : ops.Pairwise Operation.Independent) :
    AllPass setting .builtIn ops ws ↔ ∀ op ∈ ops, verdict setting .builtIn op ws = .passes := by
  induction ops generalizing ws with
  | nil => simp [AllPass]
  | cons first rest ih =>
      obtain ⟨apart, others⟩ := List.pairwise_cons.mp independent
      have later := ih (effect_orderly orderly first)
        (Workspace.steady_of_continues steady (effect_continues setting first ws)) others
      rw [AllPass, later, List.forall_mem_cons]
      apply and_congr_right
      intro _
      apply forall₂_congr
      intro op member
      exact passes_behind_iff orderly steady apart member

theorem content_effects (orderly : ws.Orderly) (steady : ws.Steady ops.length)
    (independent : ops.Pairwise Operation.Independent)
    (pass : ∀ op ∈ ops, verdict setting .builtIn op ws = .passes) {op : Operation}
    (member : op ∈ ops) {name : Text} (named : op.outputs.head? = some name) :
    (effects setting .builtIn ops ws).content? name =
      (effect setting .builtIn op ws).content? name := by
  induction ops generalizing ws with
  | nil => cases member
  | cons first rest ih =>
      obtain ⟨apart, others⟩ := List.pairwise_cons.mp independent
      change (effects setting .builtIn rest (effect setting .builtIn first ws)).content? name = _
      -- The first operation wrote the name and no other does, or one behind it writes the name.
      rcases List.mem_cons.mp member with rfl | later
      · apply Workspace.content_of_keepsEntry
        apply effects_keepsEntry (effect_orderly orderly op)
        intro other listed
        exact (apart other listed).outputs name named
      · have passBehind : ∀ other ∈ rest,
            verdict setting .builtIn other (effect setting .builtIn first ws) = .passes := by
          intro other listed
          rw [passes_behind_iff orderly steady apart listed]
          exact pass other (List.mem_cons_of_mem first listed)
        rw [ih (effect_orderly orderly first)
          (Workspace.steady_of_continues steady (effect_continues setting first ws)) others
          passBehind later]
        exact (passes_of_agree (pass op member)
          (agree_behind orderly steady apart later)).2 name named

theorem content_effects_perm {permuted : List Operation} (perm : permuted.Perm ops)
    (orderly : ws.Orderly) (steady : ws.Steady ops.length)
    (independent : ops.Pairwise Operation.Independent)
    (pass : ∀ op ∈ ops, verdict setting .builtIn op ws = .passes) (name : Text) :
    (effects setting .builtIn permuted ws).content? name =
      (effects setting .builtIn ops ws).content? name := by
  by_cases written : ∃ op ∈ ops, op.outputs.head? = some name
  · obtain ⟨op, member, named⟩ := written
    rw [content_effects orderly steady independent pass member named]
    apply content_effects orderly _ _ _ (perm.mem_iff.mpr member) named
    · rw [perm.length_eq]
      exact steady
    · exact perm.symm.pairwise independent Operation.independent_symm
    · intro other listed
      exact pass other (perm.mem_iff.mp listed)
  · have kept : ∀ list : List Operation, list.Perm ops →
        (effects setting .builtIn list ws).content? name = ws.content? name := by
      intro list same
      apply Workspace.content_of_keepsEntry
      apply effects_keepsEntry orderly
      intro op listed named
      exact written ⟨op, same.mem_iff.mp listed, named⟩
    rw [kept permuted perm, kept ops (List.Perm.refl ops)]

theorem allPass_of_ok {p : Program} {status : Status}
    (done : (p.execute setting .builtIn ws).result = .ok status) (good : status.isOk = true) :
    AllPass setting .builtIn p.operations ws := by
  have allowed := failFast_execute setting .builtIn p ws
  generalize p.execute setting .builtIn ws = outcome at allowed done
  generalize p.operations = list at allowed ⊢
  cases allowed with
  | completes ops pass => exact pass
  | stops earlier op later code message pass fails =>
      cases done
      exact absurd (beq_iff_eq.mp good) (code_ne_ok_of_stops fails)
  | escapes earlier op later fault pass fails => cases done

/-- If a program of pairwise independent operations succeeds, then so does every program of the same
operations in another order, and the same tensors are under the same names in the end. -/
theorem execute_perm (reachable : ws.Reachable) (setting : Setting) (p q : Program)
    (perm : q.operations.Perm p.operations) (steady : ws.Steady p.size)
    (independent : p.operations.Pairwise Operation.Independent) (status : Status)
    (done : (p.execute setting .builtIn ws).result = .ok status) (good : status.isOk = true) :
    (q.execute setting .builtIn ws).result = .ok .success ∧ ∀ name,
      (q.execute setting .builtIn ws).workspace.content? name =
        (p.execute setting .builtIn ws).workspace.content? name := by
  have orderly := Workspace.orderly_of_reachable reachable
  have passP := allPass_of_ok done good
  have each := (allPass_iff_each orderly steady independent).mp passP
  have passQ : AllPass setting .builtIn q.operations ws := by
    rw [allPass_iff_each orderly]
    · intro op member
      exact each op (perm.mem_iff.mp member)
    · rw [perm.length_eq]
      exact steady
    · exact perm.symm.pairwise independent Operation.independent_symm
  rw [execute_of_failFast (.completes p.operations passP),
    execute_of_failFast (.completes q.operations passQ)]
  exact ⟨rfl, content_effects_perm perm orderly steady independent each⟩

theorem execute_perm_swapped :
    let ws := ((Session.start [] []).moves
      [.call (.get "x" (some .char) (some (.array [.int 1, .int 1, .int 1]))),
        .call (.get "w" (some .char) (some (.array [.int 1, .int 1, .int 1, .int 1]))),
        .call (.write 0 0 [3]), .call (.write 1 0 [5])]).workspace
    let setting : Setting := ⟨{}, .ofContents fun _ => .ok [0, 0, 128, 63]⟩
    let number := loadNumber "a" "a.bin"
    let product : Operation := { type := "Conv", inputs := ["x", "w"], outputs := ["y"] }
    let after := (Program.execute { operations := [product, number] } setting .builtIn ws)
    ws.Reachable ∧ after.result = .ok .success ∧
      after.workspace.content? "a" = some (.holding ⟨.float32, [1], [0, 0, 128, 63]⟩) ∧
      after.workspace.content? "y" = some (.holding ⟨.char, [1, 1, 1, 1], [15]⟩) := by
  intro ws setting number product after
  have reachable : ws.Reachable := ⟨[], [], _, rfl⟩
  have independent : [number, product].Pairwise Operation.Independent := by
    rw [List.pairwise_pair]
    constructor
    · rintro name ⟨⟩
      decide
    · rintro name ⟨⟩
      decide
    · rintro name ⟨⟩
      decide
  have steady : ws.Steady 2 := ⟨fun _ _ => rfl, fun _ _ => rfl⟩
  have done : (Program.execute { operations := [number, product] } setting .builtIn ws).result =
      .ok .success := by
    apply ok_of_toOption
    decide +kernel
  obtain ⟨result, same⟩ := execute_perm reachable setting { operations := [number, product] }
    { operations := [product, number] } (List.Perm.swap number product []) steady independent
    .success done rfl
  refine ⟨reachable, result, ?_, ?_⟩
  · rw [same]
    decide +kernel
  · rw [same]
    decide +kernel

end Run

end Program
end TensorBundle
