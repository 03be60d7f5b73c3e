import Mathlib
import TensorBundle.FileTree
import TensorBundle.Proofs.Handler.ConvolutionDomain
import TensorBundle.Proofs.Handler.Failing
import TensorBundle.Proofs.Handler.Locality
import TensorBundle.Proofs.Handler.Restoring
/-!
Operations that have nothing left to do. Under the strict policy for resources an operation that
succeeds leaves its output behind; from then on, unless outputs are loaded again, it changes
nothing, whatever the files have become. What is loaded is found. An output that is kept is not
loaded, and it is found unless its handle has been released.
-/
namespace TensorBundle

namespace Workspace

theorem putHandle_eq_self {ws : Workspace} {id : Nat} {t : Tensor}
    (held : ws.handle id = .holding t) : ws.putHandle id (.holding t) = ws := by
  have known := lt_of_holding ws id t held
  have there : ws.handles[id] = .holding t := by
    rw [← held, handle, List.getElem?_eq_getElem known, Option.getD_some]
  unfold putHandle
  rw [← there, List.set_getElem_self]

/-- There is memory to work on as there was in each workspace that was seen. -/
def KeepsRoom (seen : Workspace → Prop) (ws : Workspace) : Prop :=
  ∀ past, seen past → ∀ type shape, past.workingRoom type shape = true →
    ws.workingRoom type shape = true

end Workspace

namespace Handler
variable {setting : Setting} {op : Operation} {ws : Workspace}

section Stores
variable {name : Text}

theorem LoadRequest.isSome_of_leaves {r : LoadRequest} {path : Text}
    {room : DataType → Shape → Bool} {there content : Option Handle}
    (strict : setting.config.strictResources = true)
    (left : r.leaves setting path room there = some content) : content.isSome = true := by
  unfold LoadRequest.leaves at left
  split at left
  · rename_i kept
    cases left
    exact (Bool.and_eq_true_iff.mp kept).1
  · split at left
    · cases left
    · obtain ⟨t, _, left⟩ := Option.bind_eq_some_iff.mp left
      rw [strict] at left
      split at left
      · cases left
      · split at left
        · cases left
          rfl
        · cases left

theorem ImageRequest.isSome_of_leaves {r : ImageRequest} {path : Text}
    {room : DataType → Shape → Bool} {there content : Option Handle}
    (strict : setting.config.strictResources = true)
    (left : r.leaves setting path room there = some content) : content.isSome = true := by
  unfold ImageRequest.leaves at left
  split at left
  · rename_i kept
    cases left
    exact (Bool.and_eq_true_iff.mp kept).1
  · split at left
    · cases left
    · split at left
      · cases left
      · cases left
      · obtain ⟨t, _, same⟩ := Option.map_eq_some_iff.mp left
        cases same
        rfl

theorem left_of_done {outcome : Outcome (Option Status)}
    (done : outcome.result = .ok (some .success)) (name : Text) :
    left? outcome name = some (outcome.workspace.content? name) := by
  unfold left?
  rw [done]
  rfl

theorem load_stores (strict : setting.config.strictResources = true)
    (done : (load setting op ws).result = .ok (some .success))
    (named : op.outputs.head? = some name) :
    (load setting op ws).workspace.contains name = true := by
  obtain ⟨r, request⟩ := exists_loadRequest done
  rw [LoadRequest.head_outputs request] at named
  cases named
  rw [Workspace.contains_eq_isSome_content]
  apply LoadRequest.isSome_of_leaves strict
  rw [← left_load request]
  exact left_of_done done r.name

theorem loadImage_stores (strict : setting.config.strictResources = true)
    (done : (loadImage setting op ws).result = .ok (some .success))
    (named : op.outputs.head? = some name) :
    (loadImage setting op ws).workspace.contains name = true := by
  obtain ⟨r, request⟩ := exists_imageRequest done
  rw [ImageRequest.head_outputs request] at named
  cases named
  rw [Workspace.contains_eq_isSome_content]
  apply ImageRequest.isSome_of_leaves strict
  rw [← left_loadImage request]
  exact left_of_done done r.name

theorem convolution_stores (done : (convolution setting op ws).result = .ok (some .success)) :
    ∃ x filters bias g name y, Prepared op ws x filters bias g ∧
      g.shortage? ws.available.working x.type = none ∧
      Convolution.convolve g x filters bias = some y ∧ op.output 0 = .ok name ∧
      (convolution setting op ws).workspace.content? name = some (.holding y) := by
  have found := convolved_convolved op ws
  have run := (Prod.ext_iff.mp (convolution_run setting op ws)).1
  cases result : (convolved op ws).result with
  | error e =>
      rw [done, result] at run
      cases run
  | ok value =>
      rw [result] at found
      cases found with
      | done x filters bias g name y prepared room fits named =>
          refine ⟨x, filters, bias, g, name, y, prepared, room, fits, named, ?_⟩
          have left := left_of_done done name
          rw [left_convolution ((op.output_zero_iff name).mp named), result] at left
          obtain ⟨t, _, same⟩ := Option.map_eq_some_iff.mp left
          exact same.symm

end Stores

/-- All that an operation would do is done: the output is there that it would load, or there is the
convolution under its output that its inputs give, and there was memory to work on in one of the
workspaces that were seen. -/
inductive Settled (seen : Workspace → Prop) (op : Operation) (ws : Workspace) : BuiltIn → Prop where
  | load (r : LoadRequest) (request : LoadRequest.ofOperation op = .ok r)
      (there : ws.contains r.name = true) : Settled seen op ws .load
  | loadImage (r : ImageRequest) (request : ImageRequest.ofOperation op = .ok r)
      (there : ws.contains r.name = true) : Settled seen op ws .loadImage
  | convolution (x filters : Tensor) (bias : Option Tensor) (g : Convolution.Geometry)
      (name : Text) (y : Tensor) (past : Workspace) (prepared : Prepared op ws x filters bias g)
      (once : seen past) (room : g.shortage? past.available.working x.type = none)
      (fits : Convolution.convolve g x filters bias = some y) (named : op.output 0 = .ok name)
      (there : ws.content? name = some (.holding y)) : Settled seen op ws .convolution

section Again

theorem isKept_of_contains {name : Text} (off : setting.config.forceReload = false)
    (there : ws.contains name = true) : isKept setting.config name ws = true := by
  rw [isKept, there, off]
  rfl

theorem load_kept {r : LoadRequest} (request : LoadRequest.ofOperation op = .ok r)
    (kept : isKept setting.config r.name ws = true) :
    (load setting op ws).result = .ok (some .success) ∧
      (load setting op ws).workspace = ws := by
  simp only [load, Action.bind_run, Action.ofExcept_run, request, Outcome.andThen_ok,
    isCached_kept kept, Outcome.result_logged, Outcome.workspace_logged, if_true]
  exact ⟨rfl, rfl⟩

theorem loadImage_kept {r : ImageRequest} (request : ImageRequest.ofOperation op = .ok r)
    (kept : isKept setting.config r.name ws = true) :
    (loadImage setting op ws).result = .ok (some .success) ∧
      (loadImage setting op ws).workspace = ws := by
  simp only [loadImage, Action.bind_run, Action.ofExcept_run, request, Outcome.andThen_ok,
    isCached_kept kept, Outcome.result_logged, Outcome.workspace_logged, if_true]
  exact ⟨rfl, rfl⟩

theorem store_again {name : Text} {t : Tensor} (there : ws.content? name = some (.holding t)) :
    (store name t ws).result = .ok () ∧ (store name t ws).workspace = ws := by
  obtain ⟨id, number, held⟩ := Option.map_eq_some_iff.mp there
  have stored := store_stored name t ws
  generalize (store name t ws).result = result, (store name t ws).workspace = after at stored ⊢
  cases stored with
  | reused other holds =>
      have same := number.symm.trans holds.1
      cases same
      exact ⟨rfl, Workspace.putHandle_eq_self held⟩
  | made missing => exact absurd ⟨number, t, held, rfl, rfl⟩ (missing id)
  | refused missing => exact absurd ⟨number, t, held, rfl, rfl⟩ (missing id)

theorem convolution_again (setting : Setting) {x filters y : Tensor} {bias : Option Tensor}
    {g : Convolution.Geometry} {name : Text} (prepared : Prepared op ws x filters bias g)
    (fits : Convolution.convolve g x filters bias = some y) (named : op.output 0 = .ok name)
    (there : ws.content? name = some (.holding y)) :
    (convolution setting op ws).workspace = ws ∧
      (g.shortage? ws.available.working x.type = none →
        (convolution setting op ws).result = .ok (some .success)) := by
  obtain ⟨result, workspace⟩ := Prod.ext_iff.mp (convolution_run setting op ws)
  obtain ⟨stored, kept⟩ := store_again there
  dsimp only at result workspace
  rw [result, workspace]
  cases room : g.shortage? ws.available.working x.type with
  | some fault =>
      rw [convolved_of_shortage prepared room]
      exact ⟨rfl, nofun⟩
  | none =>
      rw [convolved_of_room prepared room fits named]
      dsimp only
      rw [stored]
      exact ⟨kept, fun _ => rfl⟩

end Again

section Settled
variable {seen : Workspace → Prop} {b : BuiltIn}

theorem contains_of_prepared {x filters : Tensor} {bias : Option Tensor} {g : Convolution.Geometry}
    (prepared : Prepared op ws x filters bias g) {input : Text} (read : input ∈ op.inputs.take 3) :
    ws.contains input = true := by
  have present : ∀ {index : Nat} {t : Tensor}, foundInput op ws index = some t →
      op.inputs[index]? = some input → ws.contains input = true := by
    intro index t found listed
    unfold foundInput at found
    rw [listed, Option.bind_some, Workspace.tensor_eq_content] at found
    obtain ⟨h, held, _⟩ := Option.bind_eq_some_iff.mp found
    rw [Workspace.contains_eq_isSome_content, held, Option.isSome_some]
  obtain ⟨index, early, listed⟩ := List.mem_iff_getElem.mp read
  rw [List.getElem_take] at listed
  obtain ⟨early, within⟩ := lt_min_iff.mp (List.length_take ▸ early)
  have listed : op.inputs[index]? = some input := by rw [List.getElem?_eq_getElem within, listed]
  match index with
  | 0 => exact present prepared.input listed
  | 1 => exact present prepared.filterInput listed
  | 2 =>
      have third := prepared.biasInput
      rw [if_pos within] at third
      obtain ⟨t, found, _⟩ := third
      exact present found listed

theorem contains_of_settled (settled : Settled seen op ws b) {name : Text}
    (named : op.outputs.head? = some name) : ws.contains name = true := by
  cases settled with
  | load r request there =>
      rw [LoadRequest.head_outputs request] at named
      cases named
      exact there
  | loadImage r request there =>
      rw [ImageRequest.head_outputs request] at named
      cases named
      exact there
  | convolution x filters bias g output y past prepared once room fits isOutput there =>
      rw [(op.output_zero_iff output).mp isOutput] at named
      cases named
      rw [Workspace.contains_eq_isSome_content, there, Option.isSome_some]

theorem contains_of_settled_read (settled : Settled seen op ws .convolution) {input : Text}
    (read : input ∈ op.inputs.take 3) : ws.contains input = true := by
  cases settled with
  | convolution x filters bias g name y past prepared => exact contains_of_prepared prepared read

/-- An operation stays settled while its output is there and, if it is a convolution, neither that
nor an input becomes another. -/
theorem settled_of_kept {after : Workspace} (settled : Settled seen op ws b)
    (there : ∀ name, op.outputs.head? = some name → after.contains name = true)
    (same : b = .convolution → ∀ name,
      (op.outputs.head? = some name ∨ name ∈ op.inputs.take 3) →
        after.content? name = ws.content? name) :
    Settled seen op after b := by
  cases settled with
  | load r request _ => exact .load r request (there r.name (LoadRequest.head_outputs request))
  | loadImage r request _ =>
      exact .loadImage r request (there r.name (ImageRequest.head_outputs request))
  | convolution x filters bias g name y past prepared once room fits named held =>
      have same := same rfl
      apply Settled.convolution x filters bias g name y past _ once room fits named
      · rw [same name (Or.inl ((op.output_zero_iff name).mp named))]
        exact held
      · apply prepared_of_content _ prepared
        intro input read
        exact same input (Or.inr read)

end Settled

end Handler

namespace BuiltIn
variable {setting : Setting} {op : Operation} {ws : Workspace} {seen : Workspace → Prop}

theorem work_stores (b : BuiltIn) (strict : setting.config.strictResources = true)
    (done : (b.work setting op ws).result = .ok (some .success)) {name : Text}
    (named : op.outputs.head? = some name) :
    (b.work setting op ws).workspace.contains name = true := by
  cases b with
  | load => exact Handler.load_stores strict done named
  | loadImage => exact Handler.loadImage_stores strict done named
  | convolution =>
      change (Handler.convolution setting op ws).result = _ at done
      obtain ⟨x, filters, bias, g, output, y, _, _, _, isOutput, there⟩ :=
        Handler.convolution_stores done
      rw [(op.output_zero_iff output).mp isOutput] at named
      cases named
      rw [Workspace.contains_eq_isSome_content]
      change ((Handler.convolution setting op ws).workspace.content? name).isSome = true
      rw [there, Option.isSome_some]

theorem work_of_present (b : BuiltIn) (off : setting.config.forceReload = false)
    (done : (b.work setting op ws).result = .ok (some .success)) {name : Text}
    (named : op.outputs.head? = some name) (present : ws.contains name = true)
    (loads : b ≠ .convolution) : (b.work setting op ws).workspace = ws := by
  cases b with
  | load =>
      obtain ⟨r, request⟩ := Handler.exists_loadRequest done
      rw [Handler.LoadRequest.head_outputs request] at named
      cases named
      exact (Handler.load_kept request (Handler.isKept_of_contains off present)).2
  | loadImage =>
      obtain ⟨r, request⟩ := Handler.exists_imageRequest done
      rw [Handler.ImageRequest.head_outputs request] at named
      cases named
      exact (Handler.loadImage_kept request (Handler.isKept_of_contains off present)).2
  | convolution => exact absurd rfl loads

/-- A handler that succeeds has settled its operation, if that is no convolution in place. -/
theorem work_settles (b : BuiltIn) (strict : setting.config.strictResources = true)
    (orderly : ws.Orderly) (now : seen ws)
    (apart : b = .convolution → ∀ name, op.outputs.head? = some name → name ∉ op.inputs.take 3)
    (done : (b.work setting op ws).result = .ok (some .success)) :
    Handler.Settled seen op (b.work setting op ws).workspace b := by
  have stores : ∀ name, op.outputs.head? = some name →
      (b.work setting op ws).workspace.contains name = true :=
    fun name => b.work_stores strict done
  have effect := b.work_outputEffect setting op ws
  cases b with
  | load =>
      obtain ⟨r, request⟩ := Handler.exists_loadRequest done
      exact .load r request (stores r.name (Handler.LoadRequest.head_outputs request))
  | loadImage =>
      obtain ⟨r, request⟩ := Handler.exists_imageRequest done
      exact .loadImage r request (stores r.name (Handler.ImageRequest.head_outputs request))
  | convolution =>
      change (Handler.convolution setting op ws).result = _ at done
      obtain ⟨x, filters, bias, g, name, y, prepared, room, fits, named, there⟩ :=
        Handler.convolution_stores done
      apply Handler.Settled.convolution x filters bias g name y ws _ now room fits named there
      apply Handler.prepared_of_content _ prepared
      intro input read
      apply Workspace.content_of_keepsEntry
      apply Handler.outputEffect_keepsEntry effect orderly
      intro written
      exact apart rfl input written read

/-- A settled operation changes nothing, unless outputs are loaded again; and it succeeds if there
is memory to work on as there once was. -/
theorem work_of_settled {b : BuiltIn} (settled : Handler.Settled seen op ws b)
    (off : setting.config.forceReload = false) :
    (b.work setting op ws).workspace = ws ∧
      (ws.KeepsRoom seen → (b.work setting op ws).result = .ok (some .success)) := by
  cases settled with
  | load r request there =>
      obtain ⟨result, same⟩ := Handler.load_kept request (Handler.isKept_of_contains off there)
      exact ⟨same, fun _ => result⟩
  | loadImage r request there =>
      obtain ⟨result, same⟩ :=
        Handler.loadImage_kept request (Handler.isKept_of_contains off there)
      exact ⟨same, fun _ => result⟩
  | convolution x filters bias g name y past prepared once room fits named there =>
      obtain ⟨same, succeeds⟩ := Handler.convolution_again setting prepared fits named there
      constructor
      · exact same
      · intro keeps
        apply succeeds
        rw [Handler.shortage_eq_none_iff] at room ⊢
        obtain ⟨countable, padded, out⟩ := room
        exact ⟨countable, keeps past once _ _ padded, out.imp_right (keeps past once _ _)⟩

end BuiltIn

namespace Handler
variable {setting : Setting} {op : Operation} {ws : Workspace} {status : Option Status}

/-- What there is after an operation that has loaded its output: the workspace as it was, if the
output is kept, or the output. -/
inductive Fulfilled (config : Config) (ws : Workspace) (name : Text) : Workspace → Prop where
  | kept (there : isKept config name ws = true) : Fulfilled config ws name ws
  | loaded (after : Workspace) (wanted : isKept config name ws = false)
      (delivers : after.Delivers name) : Fulfilled config ws name after

theorem load_fulfilled (done : (load setting op ws).result = .ok status) :
    ∃ name, op.outputs.head? = some name ∧
      Fulfilled setting.config ws name (load setting op ws).workspace := by
  have loaded := load_loaded setting op ws
  generalize (load setting op ws).result = result,
    (load setting op ws).workspace = after at loaded done ⊢
  subst done
  generalize ending : (.ok status : Except Failure (Option Status)) = result at loaded
  -- What does not end in an error has found its output or has obtained a handle for it.
  cases loaded with
  | kept r request there => exact ⟨r.name, LoadRequest.head_outputs request, .kept there⟩
  | blank r e made after request asks closed lenient obtained =>
      cases made with
      | error failure => cases ending
      | ok id =>
          obtain ⟨stored, t, held, _⟩ := Workspace.obtained_holds obtained
          have gives := (Workspace.gives_iff after r.name id t).mpr ⟨stored, held⟩
          exact ⟨r.name, LoadRequest.head_outputs request, .loaded after asks.wanted ⟨id, t, gives⟩⟩
  | filled r bytes id between old request asks opened obtained =>
      have gives := Workspace.gives_of_obtained obtained (filledWith old bytes)
      exact ⟨r.name, LoadRequest.head_outputs request, .loaded _ asks.wanted ⟨id, _, gives⟩⟩
  | short r bytes id between old request asks opened obtained =>
      have gives := Workspace.gives_of_obtained obtained (filledWith old bytes)
      exact ⟨r.name, LoadRequest.head_outputs request, .loaded _ asks.wanted ⟨id, _, gives⟩⟩
  | malformed => cases ending
  | unnamable => cases ending
  | unopened => cases ending
  | refused => cases ending
  | unviewable => cases ending
  | withdrawn => cases ending

theorem loadImage_fulfilled (strict : setting.config.strictResources = true)
    (done : (loadImage setting op ws).result = .ok status) :
    ∃ name, op.outputs.head? = some name ∧
      Fulfilled setting.config ws name (loadImage setting op ws).workspace := by
  have pictured := loadImage_pictured setting op ws
  generalize (loadImage setting op ws).result = result,
    (loadImage setting op ws).workspace = after at pictured done ⊢
  subst done
  generalize ending : (.ok status : Except Failure (Option Status)) = result at pictured
  cases pictured with
  | kept r request there => exact ⟨r.name, ImageRequest.head_outputs request, .kept there⟩
  | decoded r image made after request asks whole stored =>
      cases made with
      | error failure => cases ending
      | ok done =>
          have delivers := Workspace.delivers_of_tensor (stored_ok stored).1
          exact ⟨r.name, ImageRequest.head_outputs request, .loaded after asks.wanted delivers⟩
  | ignored r problem request asks broken lenient =>
      rw [strict] at lenient
      cases lenient
  | malformed => cases ending
  | unnamable => cases ending
  | undecodable => cases ending
  | unreadable => cases ending

theorem delivers_of_fulfilled {config : Config} {name : Text} {after : Workspace}
    (fulfilled : Fulfilled config ws name after) :
    after.Delivers name ↔ ¬ (config.forceReload = false ∧ ws.Hollow name) := by
  cases fulfilled with
  | kept there =>
      obtain ⟨stored, again⟩ := Bool.and_eq_true_iff.mp there
      have off : config.forceReload = false := by simpa using again
      rw [Workspace.delivers_iff_not_hollow stored, and_iff_right off]
  | loaded after wanted delivers =>
      refine iff_of_true delivers ?_
      rintro ⟨off, id, stored, _⟩
      rw [isKept, Workspace.contains, stored, off] at wanted
      cases wanted

end Handler

namespace BuiltIn
variable {handler : BuiltIn} {setting : Setting} {op : Operation} {ws : Workspace}
  {status : Option Status}

/-- Handlers that have to load their output. The one for images has to under the strict policy only,
as the lenient one lets an image go that cannot be read. -/
inductive Loads (config : Config) : BuiltIn → Prop where
  | load : Loads config .load
  | loadImage (strict : config.strictResources = true) : Loads config .loadImage

/-- After loading that succeeds a look-up finds the output, unless outputs are kept and the handle
that was stored for this one was empty before. So it always finds the output where no handle is
released that is still stored. -/
theorem work_delivers (loads : handler.Loads setting.config)
    (done : (handler.work setting op ws).result = .ok status) :
    ∃ name, op.outputs.head? = some name ∧
      ((handler.work setting op ws).workspace.Delivers name ↔
        ¬ (setting.config.forceReload = false ∧ ws.Hollow name)) ∧
      (ws.Sound → (handler.work setting op ws).workspace.Delivers name) := by
  have fulfilled : ∃ name, op.outputs.head? = some name ∧
      Handler.Fulfilled setting.config ws name (handler.work setting op ws).workspace := by
    cases loads with
    | load => exact Handler.load_fulfilled done
    | loadImage strict => exact Handler.loadImage_fulfilled strict done
  obtain ⟨name, named, fulfilled⟩ := fulfilled
  have delivers := Handler.delivers_of_fulfilled fulfilled
  refine ⟨name, named, delivers, fun sound => delivers.mpr ?_⟩
  exact fun hollow => Workspace.not_hollow_of_sound sound name hollow.2

def loadOne : Operation where
  type := "Load"
  outputs := ["x"]
  fields := [("fileName", .text "x.bin"), ("dataType", .text "single"), ("shape", .int 1)]

def releasedOutput : Workspace :=
  ((Session.start [] []).moves
    [.call (.get "x" (some .float32) (some (.array [.int 1]))), .release 0]).workspace

theorem work_delivers_reloaded :
    let setting : Setting := ⟨{ forceReload := true }, .ofContents fun _ => .ok [1, 2, 3, 4]⟩
    releasedOutput.Reachable ∧
      (BuiltIn.load.work setting loadOne releasedOutput).result = .ok (some .success) ∧
      (BuiltIn.load.work setting loadOne releasedOutput).workspace.Delivers "x" := by
  intro setting
  have done : (BuiltIn.load.work setting loadOne releasedOutput).result =
      .ok (some .success) := by
    apply ok_of_toOption
    decide +kernel
  obtain ⟨name, named, delivers, _⟩ := work_delivers .load done
  cases named
  refine ⟨⟨[], [], _, rfl⟩, done, delivers.mpr ?_⟩
  rintro ⟨off, _⟩
  cases off

/-- Kept, an output whose handle was released is not found, though both handlers succeed. -/
theorem work_delivers_nothing :
    let setting : Setting := ⟨{}, .ofContents fun _ => .ok [1, 2, 3, 4]⟩
    releasedOutput.Reachable ∧ ∀ handler : BuiltIn, handler.Loads setting.config →
      (handler.work setting loadOne releasedOutput).result = .ok (some .success) ∧
      ¬ (handler.work setting loadOne releasedOutput).workspace.Delivers "x" := by
  intro setting
  have stored : releasedOutput.contains "x" = true := by decide +kernel
  have hollow : releasedOutput.Hollow "x" := ⟨0, by decide +kernel, by decide +kernel⟩
  have undelivered : ¬ releasedOutput.Delivers "x" := fun delivers =>
    (Workspace.delivers_iff_not_hollow stored).mp delivers hollow
  have kept : Handler.isKept setting.config "x" releasedOutput = true := by decide +kernel
  refine ⟨⟨[], [], _, rfl⟩, fun handler loads => ?_⟩
  have idle : (handler.work setting loadOne releasedOutput).result = .ok (some .success) ∧
      (handler.work setting loadOne releasedOutput).workspace = releasedOutput := by
    cases loads with
    | load =>
        have request : Handler.LoadRequest.ofOperation loadOne =
            .ok ⟨"x", "x.bin", .float32, [1]⟩ := rfl
        exact Handler.load_kept request kept
    | loadImage _ =>
        have request : Handler.ImageRequest.ofOperation loadOne =
            .ok ⟨"x", "x.bin", .float32, none⟩ := rfl
        exact Handler.loadImage_kept request kept
  rw [idle.2]
  exact ⟨idle.1, undelivered⟩

end BuiltIn
end TensorBundle
