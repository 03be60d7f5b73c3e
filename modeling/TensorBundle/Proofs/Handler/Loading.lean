import Mathlib
import TensorBundle.Handler
import TensorBundle.Proofs.Tensor.Elements
import TensorBundle.Proofs.Workspace.Effect
/-!
All that loading a tensor or an image can come to, with the workspace that it leaves, from the parts
that handlers share. Each handler has an effect on the first output of its operation and on nothing
else.
-/
namespace TensorBundle

namespace Operation

theorem nameAt_natCast (op : Operation) (names : List Text) {index : Nat} (small : index < 9)
    (key : Text) {tooFew : Int → Int → ConfigurationProblem}
    (counts : ∀ needed count, (tooFew needed count).isWritable =
      (Text.isWritable needed && Text.isWritable count)) :
    op.nameAt names index key tooFew =
      match names[index]? with
      | some name => .ok name
      | none => .error (.error (.configuration (tooFew (index + 1) names.length) (some key) none
          (some op.type))) := by
  unfold nameAt
  by_cases short : names.length ≤ index
  · have needed : Text.isWritable (index + 1) = true := Text.isWritable_of_lt (by omega)
    have count : Text.isWritable names.length = true := Text.isWritable_of_lt (by omega)
    simp [short, BundleError.raised, BundleError.isWritable, counts, needed, count]
  · have found : names[index]? = some names[index] := List.getElem?_eq_getElem (by omega)
    have reached : ¬ (names.length : Int) ≤ (index : Int) := by omega
    have positive : ¬ (index : Int) < 0 := by omega
    simp [reached, positive, found]

theorem input_natCast (op : Operation) {index : Nat} (small : index < 9) : op.input index =
    match op.inputs[index]? with
    | some name => .ok name
    | none => .error (.error (.configuration (.tooFewInputs (index + 1) op.inputs.length)
        (some "inputs") none (some op.type))) :=
  nameAt_natCast op op.inputs small "inputs" fun _ _ => rfl

theorem output_zero (op : Operation) : op.output 0 =
    match op.outputs.head? with
    | some name => .ok name
    | none => .error (.error (.configuration (.tooFewOutputs 1 op.outputs.length)
        (some "outputs") none (some op.type))) := by
  rw [List.head?_eq_getElem?]
  exact nameAt_natCast op op.outputs (show 0 < 9 by decide) "outputs" fun _ _ => rfl

theorem output_zero_iff (op : Operation) (name : Text) :
    op.output 0 = .ok name ↔ op.outputs.head? = some name := by
  rw [output_zero]
  cases op.outputs.head? <;> simp

end Operation

namespace Handler

/-- What storing a tensor comes to, and the workspace that it leaves. -/
inductive Stored (name : Text) (t : Tensor) (ws : Workspace) :
    Except Failure Unit → Workspace → Prop where
  | reused (id : Nat) (holds : ws.Holds name t.type t.shape id) :
      Stored name t ws (.ok ()) (ws.putHandle id (.holding t))
  | made (missing : ∀ id, ¬ ws.Holds name t.type t.shape id)
      (room : Tensor.canAllocate ws.available.tensor t.type t.shape = true) :
      Stored name t ws (.ok ()) ((ws.remove name).insertNew name (.holding t))
  | refused (missing : ∀ id, ¬ ws.Holds name t.type t.shape id)
      (full : Tensor.canAllocate ws.available.tensor t.type t.shape = false) :
      Stored name t ws (.error (Workspace.allocationFailure name t.type t.shape)) (ws.remove name)

theorem store_stored (name : Text) (t : Tensor) (ws : Workspace) :
    Stored name t ws (store name t ws).result (store name t ws).workspace := by
  have obtained := Workspace.obtain_obtained name t.type t.shape ws
  simp only [store, Action.bind_run]
  generalize Workspace.obtain name t.type t.shape ws = outcome at obtained ⊢
  obtain ⟨result, after, log⟩ := outcome
  cases obtained with
  | found id holds => exact .reused id holds
  | made missing room =>
      have put := Workspace.putHandle_insertNew (ws.remove name) name
        (.holding (.zeros t.type t.shape)) (.holding t)
      rw [Workspace.length_remove] at put
      -- The zeros of the new handle are replaced at once.
      change Stored name t ws (.ok ()) (((ws.remove name).insertNew name
        (.holding (.zeros t.type t.shape))).putHandle ws.handles.length (.holding t))
      rw [put]
      exact .made missing room
  | refused missing full => exact .refused missing full

theorem stored_ok_iff {name : Text} {t : Tensor} {before after : Workspace}
    {result : Except Failure Unit} (stored : Stored name t before result after) :
    result = .ok () ↔ (∃ id, before.Holds name t.type t.shape id) ∨
      Tensor.canAllocate before.available.tensor t.type t.shape = true := by
  cases stored with
  | reused id holds => exact ⟨fun _ => Or.inl ⟨id, holds⟩, fun _ => rfl⟩
  | made missing room => exact ⟨fun _ => Or.inr room, fun _ => rfl⟩
  | refused missing full =>
      refine ⟨nofun, ?_⟩
      rintro (⟨id, holds⟩ | room)
      · exact absurd holds (missing id)
      · rw [room] at full
        cases full

theorem stored_effect {name : Text} {t : Tensor} {before after : Workspace}
    {result : Except Failure Unit} (stored : Stored name t before result after)
    (complete : t.IsSound) : Workspace.Effect name before after := by
  cases stored with
  | reused id holds =>
      obtain ⟨stored, old, held, _, _⟩ := holds
      exact .rewritten id old t stored held fun _ => complete
  | made _ _ => exact .replaced t complete
  | refused _ _ => exact .removed

theorem readsOnly_inputTensor (op : Operation) (index : Int) :
    (inputTensor op index).ReadsOnly := by
  unfold inputTensor
  refine Action.readsOnly_bind (Action.readsOnly_ofExcept _) fun name => ?_
  refine Action.readsOnly_bind (fun _ => rfl) fun ws => ?_
  intro now
  cases ws.tensor? name <;> rfl

def isKept (config : Config) (name : Text) (ws : Workspace) : Bool :=
  ws.contains name && !config.forceReload

theorem isKept_of_wanted {config : Config} {name : Text} {ws : Workspace}
    (wanted : ws.contains name = true → config.forceReload = true) :
    isKept config name ws = false := by
  unfold isKept
  cases stored : ws.contains name with
  | false => rfl
  | true => rw [wanted stored]; rfl

theorem isCached_kept {config : Config} {name : Text} {ws : Workspace}
    (kept : isKept config name ws = true) : isCached config name ws =
      ⟨.ok true, ws, [⟨.debug, .loading,
        "Tensor '" ++ name ++ "' already in workspace; not reloading"⟩]⟩ := by
  unfold isKept at kept
  simp only [isCached, Action.bind_run, Action.read_run, Outcome.andThen_ok, kept, if_true]
  rfl

theorem isCached_wanted {config : Config} {name : Text} {ws : Workspace}
    (wanted : isKept config name ws = false) : isCached config name ws = ⟨.ok false, ws, []⟩ := by
  unfold isKept at wanted
  simp only [isCached, Action.bind_run, Action.read_run, Outcome.andThen_ok, wanted,
    Bool.false_eq_true, if_false]
  rfl

theorem resource_run {α : Type} (read : Text → α) (path : Text) (ws : Workspace) :
    resource read path ws =
    ⟨match Path.fault? path with
      | some fault => .error (.fault fault)
      | none => .ok (read path), ws, []⟩ := by
  unfold resource
  cases Path.fault? path <;> rfl

theorem resourceFailure_strict {config : Config} (strict : config.strictResources = true)
    (path : Text) (problem : ResourceProblem) (expectedBytes readBytes : Option Int)
    (ws : Workspace) :
    resourceFailure config path problem expectedBytes readBytes ws =
      ⟨.error (.error (.resource problem (some path) expectedBytes readBytes)), ws, []⟩ := by
  simp only [resourceFailure, strict, if_true]
  rfl

theorem resourceFailure_lenient {config : Config} (lenient : config.strictResources = false)
    (path : Text) (problem : ResourceProblem) (expectedBytes readBytes : Option Int)
    (ws : Workspace) :
    resourceFailure config path problem expectedBytes readBytes ws =
      ⟨.ok (some .success), ws, [⟨.warning, .loading,
        warning path (.resource problem (some path) expectedBytes readBytes)⟩]⟩ := by
  simp only [resourceFailure, lenient, Bool.false_eq_true, if_false]
  rfl

/-- What a handler does is an effect on its first output; without one the workspace stays as it
is. -/
def OutputEffect (op : Operation) (before after : Workspace) : Prop :=
  after = before ∨ ∃ name, op.outputs.head? = some name ∧ Workspace.Effect name before after

theorem outputEffect_of_effect {op : Operation} {name : Text} {before after : Workspace}
    (named : op.output 0 = .ok name) (effect : Workspace.Effect name before after) :
    OutputEffect op before after :=
  Or.inr ⟨name, (op.output_zero_iff name).mp named, effect⟩

theorem outputEffect_keeps {op : Operation} {before after : Workspace}
    (effect : OutputEffect op before after) : before.Keeps after := by
  rcases effect with rfl | ⟨name, _, effect⟩
  · exact Workspace.keeps_refl after
  · exact Workspace.effect_keeps effect

end Handler
end TensorBundle

namespace TensorBundle.Handler

def filledWith (t : Tensor) (bytes : List UInt8) : Tensor :=
  { t with bytes := Tensor.overwrite t.bytes 0 (bytes.take t.bytes.length) }

/-- An operation asks for a file: its output is not there or has to be loaded again, and the name
of the file is the name of a path. -/
structure AsksFor (setting : Setting) (ws : Workspace) (name path : Text) : Prop where
  wanted : isKept setting.config name ws = false
  namable : Path.fault? path = none

inductive Loaded (setting : Setting) (op : Operation) (ws : Workspace) :
    Except Failure (Option Status) → Workspace → Prop where
  | malformed (e : Failure) (bad : LoadRequest.ofOperation op = .error e) :
      Loaded setting op ws (.error e) ws
  | kept (r : LoadRequest) (request : LoadRequest.ofOperation op = .ok r)
      (there : isKept setting.config r.name ws = true) :
      Loaded setting op ws (.ok (some .success)) ws
  | unnamable (r : LoadRequest) (fault : Fault) (request : LoadRequest.ofOperation op = .ok r)
      (wanted : isKept setting.config r.name ws = false)
      (noPath : Path.fault? (ws.resolve r.file) = some fault) :
      Loaded setting op ws (.error (.fault fault)) ws
  | unopened (r : LoadRequest) (e : OpenError) (request : LoadRequest.ofOperation op = .ok r)
      (asks : AsksFor setting ws r.name (ws.resolve r.file))
      (closed : setting.files.bytes (ws.resolve r.file) = .error e)
      (strict : setting.config.strictResources = true) :
      Loaded setting op ws (.error (.error
        (.resource (.tensorUnreadable e.reason) (some (ws.resolve r.file)) none none))) ws
  | blank (r : LoadRequest) (e : OpenError) (result : Except Failure Nat) (after : Workspace)
      (request : LoadRequest.ofOperation op = .ok r)
      (asks : AsksFor setting ws r.name (ws.resolve r.file))
      (closed : setting.files.bytes (ws.resolve r.file) = .error e)
      (lenient : setting.config.strictResources = false)
      (obtained : Workspace.Obtained r.name r.type r.shape ws result after) :
      Loaded setting op ws (result.map fun _ => some .success) after
  | refused (r : LoadRequest) (bytes : List UInt8) (failure : Failure) (after : Workspace)
      (request : LoadRequest.ofOperation op = .ok r)
      (asks : AsksFor setting ws r.name (ws.resolve r.file))
      (opened : setting.files.bytes (ws.resolve r.file) = .ok bytes)
      (obtained : Workspace.Obtained r.name r.type r.shape ws (.error failure) after) :
      Loaded setting op ws (.error failure) after
  | unviewable (r : LoadRequest) (bytes : List UInt8) (id : Nat) (after : Workspace)
      (request : LoadRequest.ofOperation op = .ok r)
      (asks : AsksFor setting ws r.name (ws.resolve r.file))
      (opened : setting.files.bytes (ws.resolve r.file) = .ok bytes)
      (obtained : Workspace.Obtained r.name r.type r.shape ws (.ok id) after)
      (flat : Handle.isViewable r.shape = false) :
      Loaded setting op ws (.error (.fault .zeroDimensionView)) after
  | filled (r : LoadRequest) (bytes : List UInt8) (id : Nat) (after : Workspace) (old : Tensor)
      (request : LoadRequest.ofOperation op = .ok r)
      (asks : AsksFor setting ws r.name (ws.resolve r.file))
      (opened : setting.files.bytes (ws.resolve r.file) = .ok bytes)
      (obtained : Workspace.Obtained r.name r.type r.shape ws (.ok id) after)
      (held : after.handle id = .holding old) (viewable : Handle.isViewable r.shape = true)
      (enough : Tensor.byteCount r.type r.shape ≤ min old.bytes.length bytes.length) :
      Loaded setting op ws (.ok (some .success))
        (after.putHandle id (.holding (filledWith old bytes)))
  | short (r : LoadRequest) (bytes : List UInt8) (id : Nat) (after : Workspace) (old : Tensor)
      (request : LoadRequest.ofOperation op = .ok r)
      (asks : AsksFor setting ws r.name (ws.resolve r.file))
      (opened : setting.files.bytes (ws.resolve r.file) = .ok bytes)
      (obtained : Workspace.Obtained r.name r.type r.shape ws (.ok id) after)
      (held : after.handle id = .holding old) (viewable : Handle.isViewable r.shape = true)
      (cut : min old.bytes.length bytes.length < Tensor.byteCount r.type r.shape)
      (lenient : setting.config.strictResources = false) :
      Loaded setting op ws (.ok (some .success))
        (after.putHandle id (.holding (filledWith old bytes)))
  | withdrawn (r : LoadRequest) (bytes : List UInt8) (id : Nat) (after : Workspace) (old : Tensor)
      (request : LoadRequest.ofOperation op = .ok r)
      (asks : AsksFor setting ws r.name (ws.resolve r.file))
      (opened : setting.files.bytes (ws.resolve r.file) = .ok bytes)
      (obtained : Workspace.Obtained r.name r.type r.shape ws (.ok id) after)
      (held : after.handle id = .holding old) (viewable : Handle.isViewable r.shape = true)
      (cut : min old.bytes.length bytes.length < Tensor.byteCount r.type r.shape)
      (strict : setting.config.strictResources = true) :
      Loaded setting op ws (.error (.error (.resource (.tensorTooShort r.name)
          (some (ws.resolve r.file)) (some (Tensor.byteCount r.type r.shape))
          (some (min old.bytes.length bytes.length : Nat)))))
        ((after.putHandle id (.holding (filledWith old bytes))).remove r.name)

theorem view_holding (t : Tensor) : (Handle.holding t).view =
    if Handle.isViewable t.shape then .ok t.bytes else .error .zeroDimensionView := rfl

theorem fill_unviewable {id : Nat} {ws : Workspace} {t : Tensor} (bytes : List UInt8)
    (held : ws.handle id = .holding t) (flat : Handle.isViewable t.shape = false) :
    fill id bytes ws = ⟨.error (.fault .zeroDimensionView), ws, []⟩ := by
  simp [fill, Action.bind_run, held, view_holding, flat, Except.mapError, Outcome.logged]

theorem fill_viewable {id : Nat} {ws : Workspace} {t : Tensor} (bytes : List UInt8)
    (held : ws.handle id = .holding t) (viewable : Handle.isViewable t.shape = true) :
    fill id bytes ws = ⟨.ok (min t.bytes.length bytes.length),
      ws.putHandle id (.holding (filledWith t bytes)), []⟩ := by
  simp [fill, Action.bind_run, held, view_holding, viewable, Except.mapError, Outcome.logged,
    filledWith]

theorem load_unopened {setting : Setting} {op : Operation} {ws : Workspace} {r : LoadRequest}
    {e : OpenError} (request : LoadRequest.ofOperation op = .ok r)
    (asks : AsksFor setting ws r.name (ws.resolve r.file))
    (closed : setting.files.bytes (ws.resolve r.file) = .error e) :
    Loaded setting op ws (load setting op ws).result (load setting op ws).workspace := by
  have obtained := Workspace.obtain_obtained r.name r.type r.shape ws
  simp only [load, Action.bind_run, Action.ofExcept_run, request, Outcome.andThen_ok,
    isCached_wanted asks.wanted, Outcome.result_logged, Outcome.workspace_logged,
    Bool.false_eq_true, if_false, Action.read_run, resource_run, asks.namable, closed]
  cases policy : setting.config.strictResources with
  | true =>
      rw [resourceFailure_strict policy]
      exact .unopened r e request asks closed policy
  | false =>
      rw [resourceFailure_lenient policy, Outcome.andThen_ok, Action.bind_run]
      generalize Workspace.obtain r.name r.type r.shape ws = outcome at obtained ⊢
      obtain ⟨_ | id, after, log⟩ := outcome
      · exact .blank r e _ after request asks closed policy obtained
      · exact .blank r e _ after request asks closed policy obtained

theorem load_opened {setting : Setting} {op : Operation} {ws : Workspace} {r : LoadRequest}
    {bytes : List UInt8} (request : LoadRequest.ofOperation op = .ok r)
    (asks : AsksFor setting ws r.name (ws.resolve r.file))
    (opened : setting.files.bytes (ws.resolve r.file) = .ok bytes) :
    Loaded setting op ws (load setting op ws).result (load setting op ws).workspace := by
  have obtained := Workspace.obtain_obtained r.name r.type r.shape ws
  simp only [load, Action.bind_run, Action.ofExcept_run, request, Outcome.andThen_ok,
    isCached_wanted asks.wanted, Outcome.result_logged, Outcome.workspace_logged,
    Bool.false_eq_true, if_false, Action.read_run, resource_run, asks.namable, opened]
  generalize Workspace.obtain r.name r.type r.shape ws = outcome at obtained ⊢
  obtain ⟨_ | id, after, log⟩ := outcome
  · exact .refused r bytes _ after request asks opened obtained
  · obtain ⟨_, old, held, sameType, sameShape⟩ := Workspace.obtained_holds obtained
    change after.handle id = .holding old at held
    cases viewable : Handle.isViewable r.shape with
    | false =>
        rw [← sameShape] at viewable
        rw [Outcome.andThen_ok, Action.bind_run, fill_unviewable bytes held viewable]
        exact .unviewable r bytes id after request asks opened obtained (sameShape ▸ viewable)
    | true =>
        rw [← sameShape] at viewable
        rw [Outcome.andThen_ok, Action.bind_run, fill_viewable bytes held viewable,
          Outcome.andThen_ok]
        rw [sameShape] at viewable
        -- As many bytes are read as the file has and the tensor has room for.
        by_cases cut : min old.bytes.length bytes.length < Tensor.byteCount r.type r.shape
        · cases policy : setting.config.strictResources with
          | true =>
              simp only [cut, if_true, Action.bind_run, Action.modify_run, Outcome.andThen_ok,
                resourceFailure_strict policy]
              exact .withdrawn r bytes id after old request asks opened obtained held viewable cut
                policy
          | false =>
              simp only [cut, if_true, Bool.false_eq_true, if_false, resourceFailure_lenient policy]
              exact .short r bytes id after old request asks opened obtained held viewable cut
                policy
        · simp only [cut, if_false, Action.bind_run, Action.tell_run, Outcome.andThen_ok]
          exact .filled r bytes id after old request asks opened obtained held viewable (by omega)

theorem load_loaded (setting : Setting) (op : Operation) (ws : Workspace) :
    Loaded setting op ws (load setting op ws).result (load setting op ws).workspace := by
  cases request : LoadRequest.ofOperation op with
  | error e =>
      simp only [load, Action.bind_run, Action.ofExcept_run, request, Outcome.andThen_error]
      exact .malformed e request
  | ok r =>
      cases kept : isKept setting.config r.name ws with
      | true =>
          simp only [load, Action.bind_run, Action.ofExcept_run, request, Outcome.andThen_ok,
            isCached_kept kept, Outcome.result_logged, Outcome.workspace_logged, if_true]
          exact .kept r request kept
      | false =>
          cases path : Path.fault? (ws.resolve r.file) with
          | some fault =>
              simp only [load, Action.bind_run, Action.ofExcept_run, request, Outcome.andThen_ok,
                isCached_wanted kept, Outcome.result_logged, Outcome.workspace_logged,
                Bool.false_eq_true, if_false, Action.read_run, resource_run, path]
              exact .unnamable r fault request kept path
          | none =>
              cases file : setting.files.bytes (ws.resolve r.file) with
              | error e => exact load_unopened request ⟨kept, path⟩ file
              | ok bytes => exact load_opened request ⟨kept, path⟩ file

inductive Pictured (setting : Setting) (op : Operation) (ws : Workspace) :
    Except Failure (Option Status) → Workspace → Prop where
  | malformed (e : Failure) (bad : ImageRequest.ofOperation op = .error e) :
      Pictured setting op ws (.error e) ws
  | kept (r : ImageRequest) (request : ImageRequest.ofOperation op = .ok r)
      (there : isKept setting.config r.name ws = true) :
      Pictured setting op ws (.ok (some .success)) ws
  | unnamable (r : ImageRequest) (fault : Fault) (request : ImageRequest.ofOperation op = .ok r)
      (wanted : isKept setting.config r.name ws = false)
      (noPath : Path.fault? (ws.resolve r.file) = some fault) :
      Pictured setting op ws (.error (.fault fault)) ws
  | undecodable (r : ImageRequest) (fault : Fault) (request : ImageRequest.ofOperation op = .ok r)
      (asks : AsksFor setting ws r.name (ws.resolve r.file))
      (broken : setting.files.image (ws.resolve r.file) = .error (.fault fault)) :
      Pictured setting op ws (.error (.fault fault)) ws
  | unreadable (r : ImageRequest) (reason : Text)
      (request : ImageRequest.ofOperation op = .ok r)
      (asks : AsksFor setting ws r.name (ws.resolve r.file))
      (broken : setting.files.image (ws.resolve r.file) = .error (.problem reason))
      (strict : setting.config.strictResources = true) :
      Pictured setting op ws (.error (.error (.resource (.imageUnreadable reason)
        (some (ws.resolve r.file)) none none))) ws
  | ignored (r : ImageRequest) (reason : Text)
      (request : ImageRequest.ofOperation op = .ok r)
      (asks : AsksFor setting ws r.name (ws.resolve r.file))
      (broken : setting.files.image (ws.resolve r.file) = .error (.problem reason))
      (lenient : setting.config.strictResources = false) :
      Pictured setting op ws (.ok (some .success)) ws
  | decoded (r : ImageRequest) (image : Image) (result : Except Failure Unit) (after : Workspace)
      (request : ImageRequest.ofOperation op = .ok r)
      (asks : AsksFor setting ws r.name (ws.resolve r.file))
      (whole : setting.files.image (ws.resolve r.file) = .ok image)
      (stored : Stored r.name (imageTensor r.type image r.average) ws result after) :
      Pictured setting op ws (result.map fun _ => some .success) after

theorem loadImage_of_path {setting : Setting} {op : Operation} {ws : Workspace} {r : ImageRequest}
    (request : ImageRequest.ofOperation op = .ok r)
    (asks : AsksFor setting ws r.name (ws.resolve r.file)) :
    Pictured setting op ws (loadImage setting op ws).result
      (loadImage setting op ws).workspace := by
  simp only [loadImage, Action.bind_run, Action.ofExcept_run, request, Outcome.andThen_ok,
    isCached_wanted asks.wanted, Outcome.result_logged, Outcome.workspace_logged,
    Bool.false_eq_true, if_false, Action.read_run, resource_run, asks.namable]
  cases decoding : setting.files.image (ws.resolve r.file) with
  | error refusal =>
      cases refusal with
      | fault fault => exact .undecodable r fault request asks decoding
      | problem reason =>
          cases policy : setting.config.strictResources with
          | true =>
              simp only [resourceFailure_strict policy]
              exact .unreadable r reason request asks decoding policy
          | false =>
              simp only [resourceFailure_lenient policy]
              exact .ignored r reason request asks decoding policy
  | ok image =>
      have stored := store_stored r.name (imageTensor r.type image r.average) ws
      simp only [Action.bind_run]
      generalize store r.name (imageTensor r.type image r.average) ws = outcome at stored ⊢
      obtain ⟨_ | _, after, log⟩ := outcome
      · exact .decoded r image _ after request asks decoding stored
      · exact .decoded r image _ after request asks decoding stored

theorem loadImage_pictured (setting : Setting) (op : Operation) (ws : Workspace) :
    Pictured setting op ws (loadImage setting op ws).result
      (loadImage setting op ws).workspace := by
  cases request : ImageRequest.ofOperation op with
  | error e =>
      simp only [loadImage, Action.bind_run, Action.ofExcept_run, request, Outcome.andThen_error]
      exact .malformed e request
  | ok r =>
      cases kept : isKept setting.config r.name ws with
      | true =>
          simp only [loadImage, Action.bind_run, Action.ofExcept_run, request, Outcome.andThen_ok,
            isCached_kept kept, Outcome.result_logged, Outcome.workspace_logged, if_true]
          exact .kept r request kept
      | false =>
          cases path : Path.fault? (ws.resolve r.file) with
          | some fault =>
              simp only [loadImage, Action.bind_run, Action.ofExcept_run, request,
                Outcome.andThen_ok, isCached_wanted kept, Outcome.result_logged,
                Outcome.workspace_logged,
                Bool.false_eq_true, if_false, Action.read_run, resource_run, path]
              exact .unnamable r fault request kept path
          | none => exact loadImage_of_path request ⟨kept, path⟩

theorem LoadRequest.output_eq {op : Operation} {r : LoadRequest}
    (request : LoadRequest.ofOperation op = .ok r) : op.output 0 = .ok r.name := by
  obtain ⟨name, named, request⟩ := bind_eq_ok request
  obtain ⟨file, _, request⟩ := bind_eq_ok request
  obtain ⟨type, _, request⟩ := bind_eq_ok request
  obtain ⟨shape, _, request⟩ := bind_eq_ok request
  cases request
  exact named

theorem ImageRequest.output_eq {op : Operation} {r : ImageRequest}
    (request : ImageRequest.ofOperation op = .ok r) : op.output 0 = .ok r.name := by
  obtain ⟨name, named, request⟩ := bind_eq_ok request
  obtain ⟨file, _, request⟩ := bind_eq_ok request
  obtain ⟨type, _, request⟩ := bind_eq_ok request
  split at request
  · obtain ⟨average, _, request⟩ := bind_eq_ok request
    split at request <;> cases request
    exact named
  · cases request
    exact named

theorem LoadRequest.head_outputs {op : Operation} {r : LoadRequest}
    (request : LoadRequest.ofOperation op = .ok r) : op.outputs.head? = some r.name :=
  (op.output_zero_iff r.name).mp (LoadRequest.output_eq request)

theorem ImageRequest.head_outputs {op : Operation} {r : ImageRequest}
    (request : ImageRequest.ofOperation op = .ok r) : op.outputs.head? = some r.name :=
  (op.output_zero_iff r.name).mp (ImageRequest.output_eq request)

theorem ImageRequest.length_average {op : Operation} {r : ImageRequest}
    (request : ImageRequest.ofOperation op = .ok r) (values : List Binary)
    (given : r.average = some values) : values.length = 3 := by
  obtain ⟨name, _, request⟩ := bind_eq_ok request
  obtain ⟨file, _, request⟩ := bind_eq_ok request
  obtain ⟨type, _, request⟩ := bind_eq_ok request
  split at request
  · obtain ⟨average, _, request⟩ := bind_eq_ok request
    split at request
    · rename_i three
      cases request
      cases given
      exact three
    · cases request
  · cases request
    cases given

theorem filledWith_sound (old : Tensor) (bytes : List UInt8) (complete : old.IsSound) :
    (filledWith old bytes).IsSound := by
  unfold Tensor.IsSound filledWith at *
  rw [← complete]
  apply Tensor.length_overwrite
  simp

theorem filled_complete {after : Workspace} {id : Nat} {old : Tensor} (bytes : List UInt8)
    (held : after.handle id = .holding old) :
    ∀ t, after.handle id = .holding t → t.IsSound → (filledWith old bytes).IsSound := by
  intro t holding complete
  rw [held] at holding
  cases holding
  exact filledWith_sound old bytes complete

theorem load_effect (setting : Setting) (op : Operation) :
    (load setting op).Changes (OutputEffect op) := by
  intro ws
  have loaded := load_loaded setting op ws
  generalize (load setting op ws).result = result,
    (load setting op ws).workspace = after at loaded ⊢
  cases loaded with
  | malformed => exact Or.inl rfl
  | kept => exact Or.inl rfl
  | unnamable => exact Or.inl rfl
  | unopened => exact Or.inl rfl
  | blank r _ _ _ request _ _ _ obtained =>
      exact outputEffect_of_effect (LoadRequest.output_eq request)
        (Workspace.obtained_effect obtained)
  | refused r _ _ _ request _ _ obtained =>
      exact outputEffect_of_effect (LoadRequest.output_eq request)
        (Workspace.obtained_effect obtained)
  | unviewable r _ _ _ request _ _ obtained _ =>
      exact outputEffect_of_effect (LoadRequest.output_eq request)
        (Workspace.obtained_effect obtained)
  | filled r bytes id between old request _ _ obtained held _ _ =>
      exact outputEffect_of_effect (LoadRequest.output_eq request)
        (Workspace.obtained_put_effect obtained _ (filled_complete bytes held))
  | short r bytes id between old request _ _ obtained held _ _ _ =>
      exact outputEffect_of_effect (LoadRequest.output_eq request)
        (Workspace.obtained_put_effect obtained _ (filled_complete bytes held))
  | withdrawn r bytes id between old request _ _ obtained held _ _ _ =>
      exact outputEffect_of_effect (LoadRequest.output_eq request)
        (Workspace.obtained_put_remove_effect obtained _ (filled_complete bytes held))

theorem loadImage_effect (setting : Setting) (op : Operation) :
    (loadImage setting op).Changes (OutputEffect op) := by
  intro ws
  have pictured := loadImage_pictured setting op ws
  generalize (loadImage setting op ws).result = result, (loadImage setting op ws).workspace = after
    at pictured ⊢
  cases pictured with
  | malformed => exact Or.inl rfl
  | kept => exact Or.inl rfl
  | unnamable => exact Or.inl rfl
  | undecodable => exact Or.inl rfl
  | unreadable => exact Or.inl rfl
  | ignored => exact Or.inl rfl
  | decoded r image _ _ request _ _ stored =>
      have complete :=
        imageTensor_sound r.type image r.average (ImageRequest.length_average request)
      exact outputEffect_of_effect (ImageRequest.output_eq request) (stored_effect stored complete)

end TensorBundle.Handler
