import Mathlib
import TensorBundle.Proofs.Session.Steps
import TensorBundle.Proofs.Workspace.Effect
/-!
What holds in every state of a session. The invariant joins the entries of the workspace with all
the handles that were ever returned; each step keeps it, and so does each run. Beside the calls of
a session a caller may release a handle that was returned, which can leave an empty handle stored;
workspaces stay orderly all the same.
-/
namespace TensorBundle.Session

structure Sound (s : Session) : Prop where
  workspace : s.workspace.Sound
  returned : ∀ name id, (name, id) ∈ s.returned → id < s.workspace.handles.length ∧
    (s.workspace.number? name = some id ∨ (s.workspace.handle id).isEmpty = true)

theorem start_sound (baseName : Text) (memory : List Memory) : (start baseName memory).Sound :=
  ⟨Workspace.sound_of_no_entries _ rfl rfl, fun _ _ member => by cases member⟩

theorem step_sound {s : Session} (sound : s.Sound) (call : Call) : (s.step call).Sound := by
  have keeps := step_keeps s call
  have after := keeps.sound sound.workspace
  refine ⟨after, fun name id member => ?_⟩
  -- A handle that was returned before goes on as the workspace does; a new one is stored.
  rcases step_returned s call name id member with old | new
  · obtain ⟨known, stored | empty⟩ := sound.returned name id old
    · exact ⟨known.trans_le keeps.evolves.grows, keeps.evolves.stays name id known stored⟩
    · exact ⟨known.trans_le keeps.evolves.grows, Or.inr (keeps.evolves.rests id known empty)⟩
  · exact ⟨Workspace.lt_of_stored after new, Or.inl new⟩

theorem run_sound {s : Session} (sound : s.Sound) (calls : List Call) : (s.run calls).Sound := by
  induction calls generalizing s with
  | nil => exact sound
  | cons call rest ih => exact ih (step_sound sound call)

theorem run_evolves (s : Session) (calls : List Call) :
    s.workspace.Evolves (s.run calls).workspace := by
  induction calls generalizing s with
  | nil => exact Workspace.evolves_refl s.workspace
  | cons call rest ih =>
      exact Workspace.evolves_trans (step_keeps s call).evolves (ih (s.step call))

/-- What a caller may rely on in a state. -/
structure Consistent (s : Session) : Prop where
  complete : ∀ name id, s.workspace.number? name = some id →
    ∃ t, s.workspace.handle id = .holding t ∧ t.bytes.length = numel t.shape * t.type.size
  counted : s.workspace.byteCount = (s.workspace.entries.map fun entry =>
    ((s.workspace.tensor? entry.1).map fun t => t.bytes.length).getD 0).sum
  alone : ∀ name other id, s.workspace.number? name = some id →
    s.workspace.number? other = some id → name = other
  apart : ∀ name other id offset written, s.workspace.number? name = some id → other ≠ name →
    (s.step (.write id offset written)).workspace.number? other = s.workspace.number? other ∧
    (s.step (.write id offset written)).workspace.tensor? other = s.workspace.tensor? other
  returned : ∀ name id, (name, id) ∈ s.returned →
    s.workspace.number? name = some id ∨ (s.workspace.handle id).isEmpty = true
  present : ∀ name, s.workspace.contains name = true ↔
    ∃ id t, (Workspace.get name none none s.workspace).result = .ok (some id) ∧
      s.workspace.handle id = .holding t

structure Blank (s : Session) : Prop where
  entries : s.workspace.entries = []
  byteCount : s.workspace.byteCount = 0
  handles : ∀ id, (s.workspace.handle id).isEmpty = true

theorem tensor_of_stored {ws : Workspace} {name : Text} {id : Nat} {t : Tensor}
    (stored : ws.number? name = some id) (held : ws.handle id = .holding t) :
    ws.tensor? name = some t := by
  simp [Workspace.tensor?, stored, held, Handle.tensor?]

theorem byteCount_eq {ws : Workspace} (sound : ws.Sound) :
    ws.byteCount = (ws.entries.map fun entry =>
      ((ws.tensor? entry.1).map fun t => t.bytes.length).getD 0).sum := by
  have each : ∀ entry ∈ ws.entries, (ws.handle entry.2).byteCount =
      ((ws.tensor? entry.1).map fun t => t.bytes.length).getD 0 := by
    intro entry member
    have stored := Workspace.number_of_mem sound member
    obtain ⟨t, held, whole⟩ := sound.stored entry.1 entry.2 stored
    rw [tensor_of_stored stored held, held]
    exact whole.symm
  have total : ∀ entries : List (Text × Nat), entries.foldr
      (fun entry total => (ws.handle entry.2).byteCount + total) 0 =
        (entries.map fun entry => (ws.handle entry.2).byteCount).sum := by
    intro entries
    induction entries with
    | nil => rfl
    | cons entry rest ih => rw [List.foldr_cons, ih, List.map_cons, List.sum_cons]
  calc ws.byteCount = (ws.entries.map fun entry => (ws.handle entry.2).byteCount).sum :=
        total ws.entries
    _ = _ := congrArg List.sum (List.map_congr_left each)

theorem workspace_write (s : Session) (id : Nat) (offset : Int) (written : List UInt8) :
    s.write id offset written = s.workspace ∨
      ∃ after, s.write id offset written = s.workspace.putHandle id after := by
  unfold write
  split
  · split
    · exact Or.inr ⟨_, rfl⟩
    · exact Or.inl rfl
  · exact Or.inl rfl

theorem consistent_of_sound {s : Session} (sound : s.Sound) : s.Consistent where
  complete := sound.workspace.stored
  counted := byteCount_eq sound.workspace
  alone := sound.workspace.numbers
  apart name other id offset written stored different := by
    -- Writing changes one handle, and no other name has that.
    have elsewhere : s.workspace.number? other ≠ some id := fun shared =>
      different (sound.workspace.numbers other name id shared stored)
    change (s.write id offset written).number? other = _ ∧
      (s.write id offset written).tensor? other = _
    rcases workspace_write s id offset written with unchanged | ⟨after, changed⟩
    · rw [unchanged]
      exact ⟨rfl, rfl⟩
    · rw [changed]
      exact ⟨rfl, Workspace.tensor_putHandle_ne id after other elsewhere⟩
  returned name id member := (sound.returned name id member).2
  present := Workspace.contains_iff_get sound.workspace

theorem blank_clear {s : Session} (sound : s.Sound) : (s.step .clear).Blank := by
  have entries : s.workspace.clear.entries = [] :=
    Workspace.entries_eq_nil _ (Workspace.number_clear s.workspace)
  refine ⟨entries, ?_, Workspace.isEmpty_of_no_entries (step_sound sound .clear).workspace entries⟩
  change s.workspace.clear.byteCount = 0
  rw [Workspace.byteCount, entries]
  rfl

/-- After any calls the workspace is consistent, a handle that is empty stays so and is not stored
again whatever calls come later, and clearing or closing leaves nothing. -/
theorem run_consistent (baseName : Text) (memory : List Memory) (calls later : List Call) :
    let s := (start baseName memory).run calls
    s.Consistent ∧
      (∀ id < s.workspace.handles.length, (s.workspace.handle id).isEmpty = true →
        ((s.run later).workspace.handle id).isEmpty = true ∧
          ∀ name, (s.run later).workspace.number? name ≠ some id) ∧
      (s.step .clear).Blank ∧ (s.step .close).Blank := by
  intro s
  have sound : s.Sound := run_sound (start_sound baseName memory) calls
  refine ⟨consistent_of_sound sound, ?_, blank_clear sound, blank_clear sound⟩
  intro id known empty
  have stillEmpty := (run_evolves s later).rests id known empty
  refine ⟨stillEmpty, fun name stored => ?_⟩
  -- What is stored holds a tensor.
  obtain ⟨t, held, _⟩ := (run_sound sound later).workspace.stored name id stored
  rw [held] at stillEmpty
  cases stillEmpty

end TensorBundle.Session

namespace TensorBundle

namespace Session

inductive Move where
  | call (call : Call)
  | release (id : Nat)
  | rebase (baseName : Text)

def move (s : Session) : Move → Session
  | .call call => s.step call
  | .release id =>
      if id ∈ s.returned.map Prod.snd then ⟨s.workspace.release id, s.returned⟩ else s
  | .rebase baseName => ⟨{ s.workspace with baseName }, s.returned⟩

def moves (s : Session) (list : List Move) : Session := list.foldl move s

end Session

namespace Workspace

/-- A workspace that a caller can bring about. -/
def Reachable (ws : Workspace) : Prop :=
  ∃ baseName memory moves, ws = ((Session.start baseName memory).moves moves).workspace

end Workspace

namespace Handler
variable {op : Operation} {before after : Workspace}

theorem outputEffect_edits (effect : OutputEffect op before after) : before.Edits after := by
  rcases effect with rfl | ⟨name, _, changed⟩
  · exact Workspace.edits_refl after
  · exact Workspace.effect_edits changed

theorem outputEffect_orderly (effect : OutputEffect op before after) (orderly : before.Orderly) :
    after.Orderly :=
  Workspace.kept_of_edits Workspace.edit_orderly (outputEffect_edits effect) orderly

theorem outputEffect_keepsEntry (effect : OutputEffect op before after) (orderly : before.Orderly)
    {name : Text} (other : op.outputs.head? ≠ some name) : before.KeepsEntry name after := by
  rcases effect with same | ⟨output, named, changed⟩
  · rw [same]
    exact Workspace.keepsEntry_refl name before
  · apply Workspace.effect_keepsEntry changed orderly
    rintro rfl
    exact other named

end Handler

namespace BuiltIn

theorem work_outputEffect (handler : BuiltIn) (setting : Setting) (op : Operation) :
    (handler.work setting op).Changes (Handler.OutputEffect op) := by
  cases handler with
  | load => exact Handler.load_effect setting op
  | loadImage => exact Handler.loadImage_effect setting op
  | convolution => exact Handler.convolution_effect setting op

theorem work_edits (handler : BuiltIn) (setting : Setting) (op : Operation) :
    (handler.work setting op).Changes Workspace.Edits := fun ws =>
  Handler.outputEffect_edits (handler.work_outputEffect setting op ws)

end BuiltIn

namespace Session

theorem write_edits (s : Session) (id : Nat) (offset : Int) (written : List UInt8) :
    s.workspace.Edits (s.write id offset written) := by
  unfold write
  split
  · split
    · rename_i after done
      obtain ⟨old, new, held, rfl, type, shape, length⟩ := Handle.write_holding done
      refine Workspace.edits_of_edit (.rewritten id old new held fun complete => ?_)
      unfold Tensor.IsSound at complete ⊢
      rw [length, type, shape, complete]
    · exact Workspace.edits_refl s.workspace
  · exact Workspace.edits_refl s.workspace

theorem step_edits (s : Session) (call : Call) : s.workspace.Edits (s.step call).workspace := by
  cases call with
  | supply memory => exact Workspace.edits_of_edit (.placed s.workspace.baseName memory)
  | get name type dimensions =>
      simp only [step, workspace_answered]
      exact Workspace.effect_edits (Workspace.get_effect name type dimensions s.workspace)
  | set name value complete =>
      simp only [step, workspace_answered]
      exact Workspace.effect_edits (Workspace.set_effect name value complete s.workspace)
  | remove name => exact Workspace.edits_of_edit (.removed name)
  | clear => exact Workspace.foldl_remove_edits _ s.workspace
  | close => exact Workspace.foldl_remove_edits _ s.workspace
  | write id offset written => exact write_edits s id offset written
  | handle handler setting op => exact handler.work_edits setting op s.workspace
  | execute setting registry builtIn p =>
      refine Program.execute_changes Workspace.edits_refl Workspace.edits_trans ?_ p s.workspace
      intro entry listed op
      obtain ⟨handler, same⟩ := builtIn entry listed
      rw [same]
      exact handler.work_edits setting op

theorem move_edits (s : Session) (m : Move) : s.workspace.Edits (s.move m).workspace := by
  cases m with
  | call call => exact step_edits s call
  | release id =>
      by_cases returned : id ∈ s.returned.map Prod.snd
      · simp only [move, returned, if_true]
        exact Workspace.edits_of_edit (.released id)
      · simp only [move, returned, if_false]
        exact Workspace.edits_refl s.workspace
  | rebase baseName => exact Workspace.edits_of_edit (.placed baseName s.workspace.memory)

theorem moves_edits (s : Session) (list : List Move) :
    s.workspace.Edits (s.moves list).workspace := by
  induction list generalizing s with
  | nil => exact Workspace.edits_refl s.workspace
  | cons m rest ih => exact (move_edits s m).trans (ih (s.move m))

end Session

namespace Workspace
variable {ws : Workspace}

/-- What new workspaces have and every edit keeps is true of all that callers can bring about. -/
theorem kept_of_reachable {kind : Workspace → Prop}
    (new : ∀ baseName memory, kind { baseName, memory })
    (kept : ∀ before after, Edit before after → kind before → kind after)
    (reachable : ws.Reachable) : kind ws := by
  obtain ⟨baseName, memory, moves, rfl⟩ := reachable
  exact kept_of_edits kept (Session.moves_edits _ moves) (new baseName memory)

theorem orderly_of_reachable (reachable : ws.Reachable) : ws.Orderly :=
  kept_of_reachable (fun _ _ => orderly_of_no_entries _ rfl rfl) edit_orderly reachable

theorem tidy_of_reachable (reachable : ws.Reachable) : ws.Tidy :=
  kept_of_reachable (fun _ _ => tidy_of_no_entries _ rfl rfl) edit_tidy reachable

end Workspace
end TensorBundle
