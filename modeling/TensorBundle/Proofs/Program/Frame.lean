import Mathlib
import TensorBundle.Handler
import TensorBundle.Proofs.Action
import TensorBundle.Proofs.Program.FailFast
import TensorBundle.Proofs.Session.Consistency
/-!
The frame of a run. A run starts operations up to the first that does not pass, and says so in its
log, in entries that no handler makes. Names that are not the first output of one of these keep
their entries, however the run ends.
-/
namespace TensorBundle

open TensorBundle.Action

/-- An entry that is none of those that a run makes of itself. -/
def Log.Entry.OfHandler (entry : Log.Entry) : Prop := entry.source ≠ .program

namespace Handler

section Silent
variable {kind : Log.Entry → Prop}

theorem resource_tells {α : Type} (read : Text → α) (path : Text) :
    (resource read path).Tells kind := by
  unfold resource
  split
  · exact tells_of_silent fun _ => rfl
  · exact tells_of_silent fun _ => rfl

theorem fill_tells (id : Nat) (bytes : List UInt8) : (fill id bytes).Tells kind := by
  unfold fill
  refine tells_bind (tells_of_silent fun _ => rfl) ?_
  intro ws
  refine tells_bind (tells_ofExcept _) ?_
  intro old
  split
  · exact tells_of_silent fun _ => rfl
  · exact tells_of_silent fun _ => rfl

theorem inputTensor_tells (op : Operation) (index : Int) : (inputTensor op index).Tells kind := by
  unfold inputTensor
  refine tells_bind (tells_ofExcept _) ?_
  intro name
  refine tells_bind (tells_of_silent fun _ => rfl) ?_
  intro ws
  split
  · exact tells_of_silent fun _ => rfl
  · exact tells_of_silent fun _ => rfl

theorem biasTensor_tells (op : Operation) : (biasTensor op).Tells kind := by
  unfold biasTensor
  split
  · refine tells_bind (inputTensor_tells op 2) ?_
    intro t
    exact tells_of_silent fun _ => rfl
  · exact tells_of_silent fun _ => rfl

theorem reserve_tells (type : DataType) (g : Convolution.Geometry) :
    (reserve type g).Tells kind := by
  unfold reserve
  refine tells_bind (tells_of_silent fun _ => rfl) ?_
  intro ws
  split
  · exact tells_of_silent fun _ => rfl
  · exact tells_of_silent fun _ => rfl

theorem convolvedWith_tells (op : Operation) (x filters : Tensor) (bias : Option Tensor)
    (shape : Shape) (g : Convolution.Geometry) :
    (convolvedWith op x filters bias shape g).Tells kind := by
  unfold convolvedWith
  refine tells_bind (reserve_tells x.type g) ?_
  intro _
  split
  · refine tells_bind (tells_ofExcept _) ?_
    intro name
    exact tells_of_silent fun _ => rfl
  · refine tells_bind (tells_ofExcept _) ?_
    intro name
    exact tells_of_silent fun _ => rfl

theorem convolved_tells (op : Operation) : (convolved op).Tells kind := by
  unfold convolved
  refine tells_bind (inputTensor_tells op 0) ?_
  intro x
  refine tells_bind (tells_ofChecked _) ?_
  intro shape
  refine tells_bind (inputTensor_tells op 1) ?_
  intro filters
  refine tells_bind (biasTensor_tells op) ?_
  intro bias
  refine tells_bind (tells_ofChecked _) ?_
  intro fields
  dsimp only
  split
  · refine tells_bind (tells_ofExcept _) ?_
    intro name
    exact tells_of_silent fun _ => rfl
  · cases bias with
    | none => exact convolvedWith_tells op x filters none shape _
    | some b =>
        refine tells_bind (tells_ofExcept _) ?_
        intro _
        exact convolvedWith_tells op x filters (some b) shape _

end Silent

end Handler

def Log.TakesDebug (kind : Log.Entry → Prop) : Prop :=
  ∀ source message, source ≠ .program → kind ⟨.debug, source, message⟩

section Debug
variable {kind : Log.Entry → Prop} (debug : Log.TakesDebug kind)
include debug

namespace Workspace

theorem create_tells (name : Text) (type : DataType) (shape : Shape) :
    (create name type shape).Tells kind := by
  unfold create
  refine tells_bind (tells_of_silent fun _ => rfl) ?_
  intro _
  refine tells_bind (tells_of_silent fun _ => rfl) ?_
  intro ws
  split
  · refine tells_bind (tells_of_silent fun _ => rfl) ?_
    intro _
    refine tells_bind (tells_tell (debug _ _ nofun)) ?_
    intro _
    exact tells_of_silent fun _ => rfl
  · exact tells_of_silent fun _ => rfl

theorem obtain_tells (name : Text) (type : DataType) (shape : Shape) :
    (obtain name type shape).Tells kind := by
  unfold obtain
  refine tells_bind (tells_of_silent fun _ => rfl) ?_
  intro ws
  split
  · refine tells_bind (tells_tell (debug _ _ nofun)) ?_
    intro _
    exact tells_of_silent fun _ => rfl
  · exact create_tells debug name type shape

end Workspace

namespace Handler

theorem store_tells (name : Text) (t : Tensor) : (store name t).Tells kind := by
  refine tells_bind (Workspace.obtain_tells debug name t.type t.shape) ?_
  intro id
  exact tells_of_silent fun _ => rfl

theorem isCached_tells (config : Config) (name : Text) : (isCached config name).Tells kind := by
  unfold isCached
  refine tells_bind (tells_of_silent fun _ => rfl) ?_
  intro ws
  split
  · refine tells_bind (tells_tell (debug _ _ nofun)) ?_
    intro _
    exact tells_of_silent fun _ => rfl
  · exact tells_of_silent fun _ => rfl

theorem convolution_tells (setting : Setting) (op : Operation) :
    (convolution setting op).Tells kind := by
  unfold convolution
  refine tells_bind (convolved_tells op) ?_
  intro result
  refine tells_bind (store_tells debug _ _) ?_
  intro _
  exact tells_of_silent fun _ => rfl

section Warning
variable {setting : Setting}
  (warns : setting.config.strictResources = false → ∀ message, kind ⟨.warning, .loading, message⟩)
include warns

omit debug in
theorem resourceFailure_tells (path : Text) (problem : ResourceProblem)
    (expectedBytes readBytes : Option Int) :
    (resourceFailure setting.config path problem expectedBytes readBytes).Tells kind := by
  unfold resourceFailure
  dsimp only
  split
  · exact tells_of_silent fun _ => rfl
  · rename_i lenient
    refine tells_bind (tells_tell (warns (Bool.eq_false_iff.mpr lenient) _)) ?_
    intro _
    exact tells_of_silent fun _ => rfl

theorem load_tells (op : Operation) : (load setting op).Tells kind := by
  unfold load
  refine tells_bind (tells_ofExcept _) ?_
  intro request
  refine tells_bind (isCached_tells debug _ _) ?_
  intro cached
  split
  · exact tells_of_silent fun _ => rfl
  refine tells_bind (tells_of_silent fun _ => rfl) ?_
  intro ws
  refine tells_bind (resource_tells _ _) ?_
  intro found
  cases found with
  | error e =>
      refine tells_bind (resourceFailure_tells warns _ _ _ _) ?_
      intro status
      refine tells_bind (Workspace.obtain_tells debug _ _ _) ?_
      intro id
      exact tells_of_silent fun _ => rfl
  | ok bytes =>
      refine tells_bind (Workspace.obtain_tells debug _ _ _) ?_
      intro id
      refine tells_bind (fill_tells id bytes) ?_
      intro read
      dsimp only
      split
      · split
        · refine tells_bind (tells_of_silent fun _ => rfl) ?_
          intro _
          exact resourceFailure_tells warns _ _ _ _
        · exact resourceFailure_tells warns _ _ _ _
      · refine tells_bind (tells_tell (debug _ _ nofun)) ?_
        intro _
        exact tells_of_silent fun _ => rfl

theorem loadImage_tells (op : Operation) : (loadImage setting op).Tells kind := by
  unfold loadImage
  refine tells_bind (tells_ofExcept _) ?_
  intro request
  refine tells_bind (isCached_tells debug _ _) ?_
  intro cached
  split
  · exact tells_of_silent fun _ => rfl
  refine tells_bind (tells_of_silent fun _ => rfl) ?_
  intro ws
  refine tells_bind (resource_tells _ _) ?_
  intro found
  split
  · exact tells_of_silent fun _ => rfl
  · exact resourceFailure_tells warns _ _ _ _
  · refine tells_bind (store_tells debug _ _) ?_
    intro _
    refine tells_bind (tells_tell (debug _ _ nofun)) ?_
    intro _
    exact tells_of_silent fun _ => rfl

end Warning

end Handler

end Debug

namespace BuiltIn

def type : BuiltIn → Text
  | .load => "Load"
  | .loadImage => "LoadImage"
  | .convolution => "Conv"

theorem of_handler {type : Text} {handler : Handler}
    (found : Registry.builtIn.handler? type = some handler) :
    ∃ b : BuiltIn, b.type = type ∧ handler.work = b.work := by
  obtain ⟨before, after, split, _⟩ := List.lookup_eq_some_iff.mp found
  have listed : (type, handler) ∈ Registry.builtIn.entries := by
    rw [split]
    simp
  simp only [Registry.builtIn, List.mem_cons, List.not_mem_nil, or_false, Prod.mk.injEq] at listed
  rcases listed with ⟨rfl, rfl⟩ | ⟨rfl, rfl⟩ | ⟨rfl, rfl⟩
  · exact ⟨.load, rfl, rfl⟩
  · exact ⟨.loadImage, rfl, rfl⟩
  · exact ⟨.convolution, rfl, rfl⟩

theorem handler_of_type (b : BuiltIn) {type : Text} (typed : b.type = type) :
    ∃ handler, Registry.builtIn.handler? type = some handler ∧ handler.work = b.work := by
  subst typed
  cases b with
  | load => exact ⟨⟨0, Handler.load⟩, rfl, rfl⟩
  | loadImage => exact ⟨⟨1, Handler.loadImage⟩, rfl, rfl⟩
  | convolution => exact ⟨⟨2, Handler.convolution⟩, rfl, rfl⟩

theorem work_tells {kind : Log.Entry → Prop} {setting : Setting} (debug : Log.TakesDebug kind)
    (warns : setting.config.strictResources = false → ∀ message, kind ⟨.warning, .loading, message⟩)
    (handler : BuiltIn) (op : Operation) : (handler.work setting op).Tells kind := by
  cases handler with
  | load => exact Handler.load_tells debug warns op
  | loadImage => exact Handler.loadImage_tells debug warns op
  | convolution => exact Handler.convolution_tells debug setting op

theorem work_ofHandler (handler : BuiltIn) (setting : Setting) (op : Operation) :
    (handler.work setting op).Tells Log.Entry.OfHandler := by
  apply work_tells
  · intro source message other
    exact other
  · intro _ message
    exact nofun

end BuiltIn

namespace Program

/-- The operations that a run starts: those that pass, and behind them the first that does not. -/
def started (setting : Setting) (registry : Registry) : List Operation → Workspace → List Operation
  | [], _ => []
  | op :: rest, ws =>
      op :: match verdict setting registry op ws with
        | .passes => started setting registry rest (effect setting registry op ws)
        | .stops _ _ => []
        | .escapes _ => []

def announcement (op : Operation) : Log.Entry := ⟨.debug, .program, "Executing " ++ op.type⟩

def announcements (log : List Log.Entry) : List Log.Entry :=
  log.filter fun entry => entry.source = .program && entry.level = .debug

section Started
variable {setting : Setting} {registry : Registry}

theorem started_of_allPass {ops : List Operation} {ws : Workspace}
    (pass : AllPass setting registry ops ws) : started setting registry ops ws = ops := by
  induction ops generalizing ws with
  | nil => rfl
  | cons op rest ih =>
      obtain ⟨first, others⟩ := pass
      simp only [started, first, ih others]

theorem started_of_failure {earlier : List Operation} {ws : Workspace}
    (pass : AllPass setting registry earlier ws) {op : Operation}
    (fails : verdict setting registry op (effects setting registry earlier ws) ≠ .passes)
    (later : List Operation) :
    started setting registry (earlier ++ op :: later) ws = earlier ++ [op] := by
  induction earlier generalizing ws with
  | nil =>
      rw [List.nil_append, started]
      change verdict setting registry op ws ≠ .passes at fails
      split
      · rename_i passes
        exact absurd passes fails
      · rfl
      · rfl
  | cons first rest ih =>
      obtain ⟨passes, others⟩ := pass
      simp only [List.cons_append, started, passes, ih others fails]

theorem workspace_execute (setting : Setting) (registry : Registry) (p : Program)
    (ws : Workspace) : (p.execute setting registry ws).workspace =
      effects setting registry (started setting registry p.operations ws) ws := by
  have allowed := failFast_execute setting registry p ws
  generalize p.execute setting registry ws = outcome at allowed ⊢
  generalize p.operations = ops at allowed ⊢
  cases allowed with
  | completes ops pass => rw [started_of_allPass pass]
  | stops earlier op later code message pass fails =>
      rw [started_of_failure pass (by simp [fails])]
  | escapes earlier op later fault pass fails =>
      rw [started_of_failure pass (by simp [fails])]

theorem take_length_started (setting : Setting) (registry : Registry) (ops : List Operation)
    (ws : Workspace) : ops.take (started setting registry ops ws).length =
      started setting registry ops ws := by
  induction ops generalizing ws with
  | nil => rfl
  | cons op rest ih =>
      rw [started, List.length_cons, List.take_succ_cons]
      cases verdict setting registry op ws with
      | passes => rw [ih]
      | stops code message => rfl
      | escapes fault => rfl

/-- A status tells how many operations were started: all, or one more than its index says. -/
theorem length_started {p : Program} {ws : Workspace} {status : Status}
    (ended : (p.execute setting registry ws).result = .ok status) :
    if status.isOk then started setting registry p.operations ws = p.operations
    else ∃ index : Nat, status.index = some (index : Int) ∧
      (started setting registry p.operations ws).length = index + 1 := by
  have allowed := failFast_execute setting registry p ws
  generalize p.execute setting registry ws = outcome at allowed ended
  generalize p.operations = ops at allowed ⊢
  cases allowed with
  | completes ops pass =>
      cases ended
      exact started_of_allPass pass
  | stops earlier op later code message pass fails =>
      cases ended
      have bad : Status.isOk ⟨code, message, some (earlier.length : Int), some op.type⟩ = false :=
        beq_eq_false_iff_ne.mpr (code_ne_ok_of_stops fails)
      rw [bad, started_of_failure pass (by simp [fails])]
      exact ⟨earlier.length, rfl, by simp⟩
  | escapes earlier op later fault pass fails => cases ended

end Started

section Announcements
variable (setting : Setting)

theorem announcements_append (earlier later : List Log.Entry) :
    announcements (earlier ++ later) = announcements earlier ++ announcements later :=
  List.filter_append earlier later

theorem announcements_of_handler {log : List Log.Entry}
    (told : ∀ entry ∈ log, entry.OfHandler) : announcements log = [] := by
  apply List.filter_eq_nil_iff.mpr
  intro entry member
  have other : entry.source ≠ .program := told entry member
  simp [other]

theorem announcements_told (op : Operation) (ws : Workspace) :
    announcements (told setting .builtIn op ws) = [announcement op] := by
  unfold told
  change announcement op :: announcements _ = _
  cases found : Registry.builtIn.handler? op.type with
  | none => rfl
  | some handler =>
      obtain ⟨b, _, same⟩ := BuiltIn.of_handler found
      dsimp only
      rw [same, announcements_of_handler (b.work_ofHandler setting op ws)]

theorem announcements_allTold (ops : List Operation) (ws : Workspace) :
    announcements (allTold setting .builtIn ops ws) = ops.map announcement := by
  induction ops generalizing ws with
  | nil => rfl
  | cons op rest ih => simp [allTold, announcements_append, announcements_told, ih]

theorem announcements_execute (p : Program) (ws : Workspace) :
    announcements (p.execute setting .builtIn ws).log =
      (started setting .builtIn p.operations ws).map announcement := by
  have allowed := failFast_execute setting .builtIn p ws
  generalize p.execute setting .builtIn ws = outcome at allowed ⊢
  generalize p.operations = ops at allowed ⊢
  cases allowed with
  | completes ops pass => rw [started_of_allPass pass, announcements_allTold]
  | stops earlier op later code message pass fails =>
      have failure : announcements [failureEntry earlier.length op message] = [] := rfl
      rw [started_of_failure pass (by simp [fails]), announcements_append, announcements_allTold,
        failure, List.append_nil]
  | escapes earlier op later fault pass fails =>
      rw [started_of_failure pass (by simp [fails]), announcements_allTold]

end Announcements

section Frame
variable {setting : Setting} {ws : Workspace}

theorem effect_outputEffect (setting : Setting) (op : Operation) (ws : Workspace) :
    Handler.OutputEffect op ws (effect setting .builtIn op ws) := by
  unfold effect
  cases found : Registry.builtIn.handler? op.type with
  | none => exact Or.inl rfl
  | some handler =>
      obtain ⟨b, _, same⟩ := BuiltIn.of_handler found
      dsimp only
      rw [same]
      exact b.work_outputEffect setting op ws

theorem effect_orderly (orderly : ws.Orderly) (op : Operation) :
    (effect setting .builtIn op ws).Orderly :=
  Handler.outputEffect_orderly (effect_outputEffect setting op ws) orderly

theorem effects_keepsEntry (orderly : ws.Orderly) {ops : List Operation} {name : Text}
    (others : ∀ op ∈ ops, op.outputs.head? ≠ some name) :
    Workspace.KeepsEntry name ws (effects setting .builtIn ops ws) := by
  induction ops generalizing ws with
  | nil => exact Workspace.keepsEntry_refl name ws
  | cons op rest ih =>
      apply Workspace.keepsEntry_trans (Handler.outputEffect_keepsEntry
        (effect_outputEffect setting op ws) orderly (others op List.mem_cons_self))
      exact ih (effect_orderly orderly op) fun later member =>
        others later (List.mem_cons_of_mem op member)

/-- A run starts the operations up to the last that it announces, which a failed status names.
Every name that is not the first output of one of these keeps its entry. -/
theorem execute_frames (reachable : ws.Reachable) (setting : Setting) (p : Program) :
    ∃ count ≤ p.size,
      announcements (p.execute setting .builtIn ws).log =
        (p.operations.take count).map announcement ∧
      (∀ status, (p.execute setting .builtIn ws).result = .ok status →
        if status.isOk then count = p.size
        else ∃ index : Nat, status.index = some (index : Int) ∧ count = index + 1) ∧
      ∀ name, (∀ op ∈ p.operations.take count, op.outputs.head? ≠ some name) →
        ws.KeepsEntry name (p.execute setting .builtIn ws).workspace := by
  have first := take_length_started setting .builtIn p.operations ws
  refine ⟨(started setting .builtIn p.operations ws).length, ?_, ?_, ?_, ?_⟩
  · rw [← first]
    exact List.length_take_le' _ _
  · rw [first]
    exact announcements_execute setting p ws
  · intro status ended
    have counted := length_started ended
    split
    · rename_i good
      rw [if_pos good] at counted
      rw [counted, size]
    · rename_i bad
      rwa [if_neg bad] at counted
  · intro name others
    rw [first] at others
    rw [workspace_execute]
    exact effects_keepsEntry (Workspace.orderly_of_reachable reachable) others

def loadNumber (name file : Text) : Operation where
  type := "Load"
  outputs := [name]
  fields := [("fileName", .text file), ("dataType", .text "single"), ("shape", .array [.int 1])]

/-- The third operation would write into `x`, but the second finds no file and ends the run. -/
theorem execute_frames_unopened :
    let ws := ((Session.start [] []).moves
      [.call (.get "x" (some .char) (some (.array [.int 1])))]).workspace
    let files : Files :=
      .ofContents fun path => if path = "a.bin" then .ok [0, 0, 128, 63] else .error .notFound
    let p : Program :=
      { operations := [loadNumber "a" "a.bin", loadNumber "b" "b.bin", loadNumber "x" "a.bin"] }
    let after := (p.execute ⟨{ forceReload := true }, files⟩ .builtIn ws).workspace
    ws.Reachable ∧ ws.content? "x" = some (.holding ⟨.char, [1], [0]⟩) ∧
      after.content? "a" = some (.holding ⟨.float32, [1], [0, 0, 128, 63]⟩) ∧
      ws.KeepsEntry "x" after := by
  intro ws files p after
  have reachable : ws.Reachable := ⟨[], [], _, rfl⟩
  obtain ⟨count, _, told, _, keeps⟩ :=
    execute_frames reachable ⟨{ forceReload := true }, files⟩ p
  have counted : (announcements
      (p.execute ⟨{ forceReload := true }, files⟩ .builtIn ws).log).length = min count 3 := by
    rw [told]
    simp [p]
  have known : (announcements
      (p.execute ⟨{ forceReload := true }, files⟩ .builtIn ws).log).length = 2 := by
    decide +kernel
  have two : count = 2 := by omega
  subst two
  have stored : ws.content? "x" = some (.holding ⟨.char, [1], [0]⟩) := by decide +kernel
  have loaded : after.content? "a" = some (.holding ⟨.float32, [1], [0, 0, 128, 63]⟩) := by
    decide +kernel
  exact ⟨reachable, stored, loaded, keeps "x" (by decide)⟩

end Frame

end Program
end TensorBundle
