import Mathlib
import TensorBundle.Program
import TensorBundle.Proofs.Action
import TensorBundle.Proofs.Handler.Convolving
import TensorBundle.Proofs.Tensor.Elements
import TensorBundle.Proofs.Workspace.Effect
/-!
Sessions: all that a caller can do with one workspace, in any order and however each step ends. A
caller looks tensors up, stores arrays, forgets names and runs programs; the session remembers every
handle that the caller was given, with the name that it was asked for.
-/
namespace TensorBundle.Workspace

theorem number_of_lookup {ws : Workspace} {name : Text} {id : Nat}
    (found : ws.lookup? name = some id) : ws.number? name = some id :=
  (Option.filter_eq_some_iff.mp found).1

theorem get_plain (name : Text) (ws : Workspace) :
    get name none none ws = ⟨.ok (ws.lookup? name), ws, []⟩ := rfl

theorem contains_iff_get {ws : Workspace} (sound : Sound ws) (name : Text) :
    ws.contains name = true ↔
      ∃ id t, (get name none none ws).result = .ok (some id) ∧ ws.handle id = .holding t := by
  rw [get_plain]
  constructor
  · intro present
    obtain ⟨id, stored⟩ := Option.isSome_iff_exists.mp present
    obtain ⟨t, held, _⟩ := sound.stored name id stored
    refine ⟨id, t, ?_, held⟩
    have found : ws.lookup? name = some id :=
      Option.filter_eq_some_iff.mpr ⟨stored, by rw [held]; rfl⟩
    exact congrArg Except.ok found
  · rintro ⟨id, t, found, _⟩
    have stored := number_of_lookup (Except.ok.inj found)
    exact Option.isSome_iff_exists.mpr ⟨id, stored⟩

theorem get_effect (name : Text) (type : Option DataType) (dimensions : Option Json) :
    (get name type dimensions).Changes (Effect name) := by
  intro ws
  match type, dimensions with
  | none, none => exact .untouched
  | some _, none => exact .untouched
  | none, some _ => exact .untouched
  | some type, some document =>
      simp only [get, Action.bind_run, Action.ofExcept_run]
      cases Shape.ofJson document with
      | error fault => exact .untouched
      | ok dimensions =>
          simp only [Except.mapError, Outcome.andThen_ok, Outcome.workspace_logged]
          cases Shape.ofInts? dimensions with
          | none => exact .untouched
          | some shape =>
              have obtained := obtain_obtained name type shape ws
              simp only [Action.map_run]
              generalize obtain name type shape ws = outcome at obtained ⊢
              obtain ⟨_ | _, after, log⟩ := outcome
              · exact obtained_effect obtained
              · exact obtained_effect obtained

theorem get_number (name : Text) (type : Option DataType) (dimensions : Option Json)
    (ws : Workspace) (id : Nat)
    (answered : (get name type dimensions ws).result = .ok (some id)) :
    (get name type dimensions ws).workspace.number? name = some id := by
  match type, dimensions with
  | none, none => exact number_of_lookup (Except.ok.inj answered)
  | some _, none => cases answered
  | none, some _ => cases answered
  | some type, some document =>
      simp only [get, Action.bind_run, Action.ofExcept_run] at answered ⊢
      cases reading : Shape.ofJson document with
      | error fault =>
          rw [reading] at answered
          cases answered
      | ok dimensions =>
          simp only [reading, Except.mapError, Outcome.andThen_ok, Outcome.workspace_logged,
            Outcome.result_logged] at answered ⊢
          cases sizes : Shape.ofInts? dimensions with
          | none =>
              rw [sizes] at answered
              cases answered
          | some shape =>
              have obtained := obtain_obtained name type shape ws
              simp only [sizes, Action.map_run] at answered ⊢
              generalize obtain name type shape ws = outcome at obtained answered ⊢
              obtain ⟨_ | found, after, log⟩ := outcome
              · cases answered
              · cases answered
                exact (obtained_holds obtained).1

section Set
variable (name : Text) (value : NumericArray)

theorem set_effect (complete : value.IsSound) : (set name value).Changes (Effect name) := by
  intro ws
  cases typed : value.type? with
  | none =>
      simp only [set, typed]
      exact .untouched
  | some type =>
      have obtained := obtain_obtained name type value.shape ws
      simp only [set, typed, Action.bind_run]
      generalize obtain name type value.shape ws = outcome at obtained ⊢
      obtain ⟨_ | id, after, log⟩ := outcome
      · exact obtained_effect obtained
      · exact obtained_put_effect obtained _ fun _ _ _ => complete type typed

theorem set_number (ws : Workspace) (id : Nat) (answered : (set name value ws).result = .ok id) :
    (set name value ws).workspace.number? name = some id := by
  cases typed : value.type? with
  | none =>
      simp only [set, typed] at answered
      cases answered
  | some type =>
      have obtained := obtain_obtained name type value.shape ws
      simp only [set, typed, Action.bind_run] at answered ⊢
      generalize obtain name type value.shape ws = outcome at obtained answered ⊢
      obtain ⟨_ | found, after, log⟩ := outcome
      · cases answered
      · cases answered
        exact (obtained_holds obtained).1

end Set

section Clear
variable (ws : Workspace)

theorem keeps_remove (name : Text) : Keeps ws (ws.remove name) :=
  ⟨sound_remove name, evolves_remove name⟩

theorem keeps_foldl_remove (names : List Text) : Keeps ws (names.foldl remove ws) := by
  induction names generalizing ws with
  | nil => exact keeps_refl ws
  | cons name rest ih => exact keeps_trans _ _ _ (keeps_remove ws name) (ih (ws.remove name))

theorem number_foldl_remove (names : List Text) (name : Text) :
    (names.foldl remove ws).number? name = if name ∈ names then none else ws.number? name := by
  induction names generalizing ws with
  | nil => simp
  | cons first rest ih =>
      rw [List.foldl_cons, ih, number_remove]
      by_cases same : name = first
      · simp [same]
      · simp [same]

theorem number_clear (name : Text) : ws.clear.number? name = none := by
  rw [clear, number_foldl_remove]
  split
  · rfl
  · rename_i unlisted
    refine List.lookup_eq_none_iff.mpr fun entry member => ?_
    refine bne_iff_ne.mpr ?_
    rintro rfl
    exact unlisted (List.mem_map.mpr ⟨entry, member, rfl⟩)

theorem entries_eq_nil (absent : ∀ name, ws.number? name = none) : ws.entries = [] := by
  cases entries : ws.entries with
  | nil => rfl
  | cons entry rest =>
      have found := absent entry.1
      simp [number?, entries] at found

theorem isEmpty_of_no_entries {ws : Workspace} (sound : Sound ws) (entries : ws.entries = [])
    (id : Nat) : (ws.handle id).isEmpty = true := by
  by_contra holds
  obtain ⟨t, held⟩ := (Handle.not_isEmpty_iff _).mp (Bool.eq_false_iff.mpr holds)
  obtain ⟨name, stored⟩ := sound.owned id t held
  simp [number?, entries] at stored

end Clear

section Write
variable {ws : Workspace} {id : Nat} {offset : Int} {written : List UInt8} {after : Handle}

theorem sound_write (sound : Sound ws) (done : (ws.handle id).write offset written = .ok after) :
    Sound (ws.putHandle id after) := by
  obtain ⟨old, new, held, rfl, type, shape, length⟩ := Handle.write_holding done
  refine sound_putHandle id old new sound held fun complete => ?_
  unfold Tensor.IsSound at complete ⊢
  rw [length, type, shape, complete]

theorem keeps_write (done : (ws.handle id).write offset written = .ok after) :
    Keeps ws (ws.putHandle id after) := by
  refine ⟨fun sound => sound_write sound done, ?_⟩
  obtain ⟨old, new, held, rfl, _⟩ := Handle.write_holding done
  exact evolves_putHandle id old new held

theorem tensor_putHandle_ne {ws : Workspace} (id : Nat) (after : Handle) (name : Text)
    (elsewhere : ws.number? name ≠ some id) :
    (ws.putHandle id after).tensor? name = ws.tensor? name := by
  unfold tensor?
  rw [number_putHandle]
  cases stored : ws.number? name with
  | none => rfl
  | some other =>
      have different : other ≠ id := by
        rintro rfl
        exact elsewhere stored
      simp [handle_putHandle_ne ws id after other different]

end Write

end TensorBundle.Workspace

namespace TensorBundle

theorem Registry.mem_of_find {r : Registry} {type : Text} {h : Handler}
    (found : r.find type = .ok h) :
    ∃ entry ∈ r.entries, entry.2 = h := by
  unfold Registry.find at found
  split at found
  · rename_i listed
    cases found
    obtain ⟨before, after, split, _⟩ := List.lookup_eq_some_iff.mp listed
    exact ⟨(type, h), by rw [split]; simp, rfl⟩
  · cases found

namespace Program

section Changes
variable {kind : Workspace → Workspace → Prop} {setting : Setting} {registry : Registry}

theorem runOperation_changes (same : ∀ ws, kind ws ws)
    (each : ∀ entry ∈ registry.entries, ∀ op, (entry.2.work setting op).Changes kind)
    (op : Operation) : (runOperation setting registry op).Changes kind := by
  refine Action.changes_bind_readsOnly same (fun _ => rfl) fun _ => ?_
  refine Action.changes_rescue BundleError.status ?_
  refine Action.changes_bind_ofChecked same _ fun handler found => ?_
  obtain ⟨entry, listed, rfl⟩ := Registry.mem_of_find found
  intro ws
  have changed := each entry listed op ws
  rw [Action.bind_run]
  generalize entry.2.work setting op ws = outcome at changed ⊢
  obtain ⟨_ | _, after, log⟩ := outcome
  · exact changed
  · exact changed

theorem runFrom_changes (same : ∀ ws, kind ws ws)
    (joined : ∀ before between after, kind before between → kind between after → kind before after)
    (each : ∀ entry ∈ registry.entries, ∀ op, (entry.2.work setting op).Changes kind)
    (index : Nat) (ops : List Operation) : (runFrom setting registry index ops).Changes kind := by
  induction ops generalizing index with
  | nil => exact same
  | cons op rest ih =>
      refine Action.changes_bind joined (runOperation_changes same each op) fun status => ?_
      cases status.isOk with
      | true => exact ih (index + 1)
      | false => exact Action.changes_bind_readsOnly same (fun _ => rfl) fun _ => same

/-- A run makes changes of a kind if each handler does, when none at all and one after another are
of that kind too. -/
theorem execute_changes (same : ∀ ws, kind ws ws)
    (joined : ∀ before between after, kind before between → kind between after → kind before after)
    (each : ∀ entry ∈ registry.entries, ∀ op, (entry.2.work setting op).Changes kind)
    (p : Program) : (p.execute setting registry).Changes kind :=
  runFrom_changes same joined each 0 p.operations

end Changes

end Program

inductive BuiltIn where
  | load
  | loadImage
  | convolution

namespace BuiltIn

def work : BuiltIn → Work
  | .load => Handler.load
  | .loadImage => Handler.loadImage
  | .convolution => Handler.convolution

theorem work_keeps (handler : BuiltIn) (setting : Setting) (op : Operation) :
    (handler.work setting op).Changes Workspace.Keeps := by
  intro ws
  cases handler with
  | load => exact Handler.outputEffect_keeps (Handler.load_effect setting op ws)
  | loadImage => exact Handler.outputEffect_keeps (Handler.loadImage_effect setting op ws)
  | convolution => exact Handler.outputEffect_keeps (Handler.convolution_effect setting op ws)

end BuiltIn

def Registry.IsBuiltIn (r : Registry) : Prop :=
  ∀ entry ∈ r.entries, ∃ handler : BuiltIn, entry.2.work = handler.work

theorem Registry.builtIn_isBuiltIn : builtIn.IsBuiltIn := by
  intro entry listed
  simp only [builtIn, List.mem_cons, List.not_mem_nil, or_false] at listed
  rcases listed with rfl | rfl | rfl
  · exact ⟨.load, rfl⟩
  · exact ⟨.loadImage, rfl⟩
  · exact ⟨.convolution, rfl⟩

structure Session where
  workspace : Workspace
  returned : List (Text × Nat) := []

namespace Session

/-- A step of a session. How much memory there is changes between the steps of the caller, and
leaving the block that a workspace was opened for closes it. -/
inductive Call where
  | supply (memory : List Memory)
  | get (name : Text) (type : Option DataType) (dimensions : Option Json)
  | set (name : Text) (value : NumericArray) (complete : value.IsSound)
  | remove (name : Text)
  | clear
  | close
  | write (id : Nat) (offset : Int) (written : List UInt8)
  | handle (handler : BuiltIn) (setting : Setting) (op : Operation)
  | execute (setting : Setting) (registry : Registry) (builtIn : registry.IsBuiltIn) (p : Program)

def answered (s : Session) (name : Text) (answer : Option Nat) (after : Workspace) : Session :=
  match answer with
  | some id => ⟨after, (name, id) :: s.returned⟩
  | none => ⟨after, s.returned⟩

/-- Bytes are written only through handles that were returned. -/
def write (s : Session) (id : Nat) (offset : Int) (written : List UInt8) : Workspace :=
  if id ∈ s.returned.map Prod.snd then
    match (s.workspace.handle id).write offset written with
    | .ok after => s.workspace.putHandle id after
    | .error _ => s.workspace
  else s.workspace

def step (s : Session) : Call → Session
  | .supply memory => ⟨{ s.workspace with memory }, s.returned⟩
  | .get name type dimensions =>
      let outcome := Workspace.get name type dimensions s.workspace
      s.answered name (outcome.result.toOption.join) outcome.workspace
  | .set name value _ =>
      let outcome := Workspace.set name value s.workspace
      s.answered name outcome.result.toOption outcome.workspace
  | .remove name => ⟨s.workspace.remove name, s.returned⟩
  | .clear => ⟨s.workspace.clear, s.returned⟩
  | .close => ⟨s.workspace.close, s.returned⟩
  | .write id offset written => ⟨s.write id offset written, s.returned⟩
  | .handle handler setting op => ⟨(handler.work setting op s.workspace).workspace, s.returned⟩
  | .execute setting registry _ p =>
      ⟨(p.execute setting registry s.workspace).workspace, s.returned⟩

def run (s : Session) (calls : List Call) : Session := calls.foldl step s

def start (baseName : Text) (memory : List Memory) : Session := ⟨{ baseName, memory }, []⟩

theorem workspace_answered (s : Session) (name : Text) (answer : Option Nat) (after : Workspace) :
    (s.answered name answer after).workspace = after := by
  cases answer <;> rfl

theorem returned_answered {s : Session} {name : Text} {answer : Option Nat} {after : Workspace}
    {asked : Text} {id : Nat} (member : (asked, id) ∈ (s.answered name answer after).returned) :
    (asked, id) ∈ s.returned ∨ (asked = name ∧ answer = some id) := by
  cases answer with
  | none => exact Or.inl member
  | some given =>
      rcases List.mem_cons.mp member with new | old
      · cases new
        exact Or.inr ⟨rfl, rfl⟩
      · exact Or.inl old

theorem write_keeps (s : Session) (id : Nat) (offset : Int) (written : List UInt8) :
    s.workspace.Keeps (s.write id offset written) := by
  unfold write
  split
  · split
    · rename_i after done
      exact Workspace.keeps_write done
    · exact Workspace.keeps_refl s.workspace
  · exact Workspace.keeps_refl s.workspace

theorem step_keeps (s : Session) (call : Call) : s.workspace.Keeps (s.step call).workspace := by
  cases call with
  | supply memory =>
      -- Soundness says nothing of the memory that there is.
      refine ⟨fun sound => ⟨sound.names, sound.numbers, sound.stored, sound.owned⟩, ?_⟩
      exact ⟨le_rfl, fun _ _ _ stored => Or.inl stored, fun _ _ empty => empty⟩
  | get name type dimensions =>
      simp only [step, workspace_answered]
      exact Workspace.effect_keeps (Workspace.get_effect name type dimensions s.workspace)
  | set name value complete =>
      simp only [step, workspace_answered]
      exact Workspace.effect_keeps (Workspace.set_effect name value complete s.workspace)
  | remove name => exact Workspace.keeps_remove s.workspace name
  | clear => exact Workspace.keeps_foldl_remove s.workspace _
  | close => exact Workspace.keeps_foldl_remove s.workspace _
  | write id offset written => exact write_keeps s id offset written
  | handle handler setting op => exact handler.work_keeps setting op s.workspace
  | execute setting registry builtIn p =>
      refine Program.execute_changes Workspace.keeps_refl Workspace.keeps_trans ?_ p s.workspace
      intro entry listed op
      -- Whatever the type is called, its handler is one of the three.
      obtain ⟨handler, same⟩ := builtIn entry listed
      rw [same]
      exact handler.work_keeps setting op

theorem step_returned (s : Session) (call : Call) (name : Text) (id : Nat)
    (member : (name, id) ∈ (s.step call).returned) :
    (name, id) ∈ s.returned ∨ (s.step call).workspace.number? name = some id := by
  cases call with
  | get asked type dimensions =>
      rcases returned_answered member with old | ⟨rfl, answer⟩
      · exact Or.inl old
      · simp only [step, workspace_answered]
        refine Or.inr (Workspace.get_number name type dimensions s.workspace id ?_)
        cases result : (Workspace.get name type dimensions s.workspace).result with
        | error e => simp [result, Except.toOption] at answer
        | ok number =>
            simp only [result, Except.toOption, Option.join_some] at answer
            rw [answer]
  | set asked value complete =>
      rcases returned_answered member with old | ⟨rfl, answer⟩
      · exact Or.inl old
      · simp only [step, workspace_answered]
        refine Or.inr (Workspace.set_number name value s.workspace id ?_)
        cases result : (Workspace.set name value s.workspace).result with
        | error e => simp [result, Except.toOption] at answer
        | ok number =>
            simp only [result, Except.toOption] at answer
            rw [Option.some.inj answer]
  | supply => exact Or.inl member
  | remove => exact Or.inl member
  | clear => exact Or.inl member
  | close => exact Or.inl member
  | write => exact Or.inl member
  | handle => exact Or.inl member
  | execute => exact Or.inl member

end Session
end TensorBundle
