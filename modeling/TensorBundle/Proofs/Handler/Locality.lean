import Mathlib
import TensorBundle.Proofs.Handler.Escaping
import TensorBundle.Program
import TensorBundle.Proofs.Workspace.Effect
/-!
What an operation reads of a workspace. Whether it succeeds, and what it then leaves under its
output, depends on what was there, on the memory that there is and, for a convolution, on the
tensors of its inputs; everything else in the workspace is of no account.
-/
namespace TensorBundle

namespace Workspace

theorem contains_eq_isSome_content (ws : Workspace) (name : Text) :
    ws.contains name = (ws.content? name).isSome := by
  simp [contains, content?]

theorem tensor_eq_content (ws : Workspace) (name : Text) :
    ws.tensor? name = (ws.content? name).bind Handle.tensor? := by
  simp only [tensor?, content?, Option.bind_map]
  rfl

theorem content_putHandle_self {ws : Workspace} {name : Text} {id : Nat}
    (stored : ws.number? name = some id) (known : id < ws.handles.length) (h : Handle) :
    (ws.putHandle id h).content? name = some h := by
  have same : (ws.putHandle id h).number? name = some id := stored
  rw [content_of_stored same, handle_putHandle_self ws id h known]

theorem content_insertNew_self {ws : Workspace} {name : Text} (free : ws.number? name = none)
    (h : Handle) : (ws.insertNew name h).content? name = some h := by
  rw [content_of_stored (number_insertNew_self ws name h free), handle_insertNew_self]

def room (ws : Workspace) (type : DataType) (shape : Shape) : Bool :=
  Tensor.canAllocate ws.available.tensor type shape

def workingRoom (ws : Workspace) (type : DataType) (shape : Shape) : Bool :=
  Tensor.canAllocate ws.available.working type shape

/-- Two workspaces agree on names, on the directory of the files and on what there is memory for.
Under other names they may hold anything. -/
structure Agree (names : List Text) (one other : Workspace) : Prop where
  baseName : other.baseName = one.baseName
  content : ∀ name ∈ names, other.content? name = one.content? name
  room : other.room = one.room
  workingRoom : other.workingRoom = one.workingRoom

theorem agree_symm {names : List Text} {one other : Workspace} (agree : Agree names one other) :
    Agree names other one where
  baseName := agree.baseName.symm
  content name member := (agree.content name member).symm
  room := agree.room.symm
  workingRoom := agree.workingRoom.symm

theorem agree_of_subset {names fewer : List Text} {one other : Workspace} (subset : fewer ⊆ names)
    (agree : Agree names one other) : Agree fewer one other where
  baseName := agree.baseName
  content name member := agree.content name (subset member)
  room := agree.room
  workingRoom := agree.workingRoom

/-- The tensor that getting one of a type and shape comes to, from what is there: it is that, or
one of zeros if there is room for it. -/
def gained (room : DataType → Shape → Bool) (type : DataType) (shape : Shape)
    (there : Option Handle) : Option Tensor :=
  ((there.bind Handle.tensor?).filter fun t => t.type = type ∧ t.shape = shape).or
    (if room type shape then some (.zeros type shape) else none)

section Gained
variable {ws : Workspace} {name : Text} {type : DataType} {shape : Shape}

theorem gained_of_holds {id : Nat} (holds : ws.Holds name type shape id) :
    gained ws.room type shape (ws.content? name) = (ws.handle id).tensor? := by
  obtain ⟨stored, t, held, isType, isShape⟩ := holds
  simp [gained, content_of_stored stored, held, Handle.tensor?, isType, isShape]

theorem gained_of_missing (missing : ∀ id, ¬ ws.Holds name type shape id) :
    gained ws.room type shape (ws.content? name) =
      if ws.room type shape then some (.zeros type shape) else none := by
  have unlike : ((ws.content? name).bind Handle.tensor?).filter
      (fun t => t.type = type ∧ t.shape = shape) = none := by
    rw [Option.filter_eq_none_iff]
    intro t found like
    obtain ⟨h, there, holding⟩ := Option.bind_eq_some_iff.mp found
    obtain ⟨id, stored, rfl⟩ := Option.map_eq_some_iff.mp there
    exact missing id ⟨stored, t, Handle.eq_holding holding, of_decide_eq_true like⟩
  rw [gained, unlike, Option.none_or]

theorem gained_of_refused {after : Workspace} {failure : Failure}
    (obtained : Obtained name type shape ws (.error failure) after) :
    gained ws.room type shape (ws.content? name) = none := by
  cases obtained with
  | refused missing full =>
      rw [gained_of_missing missing, room, full]
      rfl

theorem gained_of_obtained {after : Workspace} {id : Nat} {t : Tensor}
    (obtained : Obtained name type shape ws (.ok id) after) (held : after.handle id = .holding t) :
    gained ws.room type shape (ws.content? name) = some t := by
  cases obtained with
  | found id holds =>
      rw [gained_of_holds holds, held]
      rfl
  | made missing fits =>
      have new := handle_insertNew_self (ws.remove name) name (.holding (.zeros type shape))
      rw [length_remove, held] at new
      cases new
      rw [gained_of_missing missing, room, if_pos fits]

theorem content_put_of_obtained {after : Workspace} {id : Nat}
    (obtained : Obtained name type shape ws (.ok id) after) (h : Handle) :
    (after.putHandle id h).content? name = some h := by
  obtain ⟨stored, t, held, _⟩ := obtained_holds obtained
  exact content_putHandle_self stored (lt_of_holding after id t held) h

end Gained

end Workspace

namespace Handler

open Workspace (gained)

def left? (outcome : Outcome (Option Status)) (name : Text) : Option (Option Handle) :=
  match outcome.result with
  | .ok answer =>
      if (Program.statusOf answer).isOk then some (outcome.workspace.content? name) else none
  | .error _ => none

theorem left_error (e : Failure) (after : Workspace) (log : List Log.Entry) (name : Text) :
    left? ⟨.error e, after, log⟩ name = none := rfl

theorem left_success (after : Workspace) (log : List Log.Entry) (name : Text) :
    left? ⟨.ok (some .success), after, log⟩ name = some (after.content? name) := rfl

/-- What loading a tensor leaves in the place of the output, if it succeeds. -/
def LoadRequest.leaves (setting : Setting) (r : LoadRequest) (path : Text)
    (room : DataType → Shape → Bool) (there : Option Handle) : Option (Option Handle) :=
  if there.isSome && !setting.config.forceReload then some there
  else if (Path.fault? path).isSome then none
  else
    (gained room r.type r.shape there).bind fun t =>
      match setting.files.bytes path with
      | .error _ => if setting.config.strictResources then none else some (some (.holding t))
      | .ok bytes =>
          if Handle.isViewable r.shape = true ∧ (setting.config.strictResources = false ∨
              Tensor.byteCount r.type r.shape ≤ min t.bytes.length bytes.length) then
            some (some (.holding (filledWith t bytes)))
          else none

def ImageRequest.leaves (setting : Setting) (r : ImageRequest) (path : Text)
    (room : DataType → Shape → Bool) (there : Option Handle) : Option (Option Handle) :=
  if there.isSome && !setting.config.forceReload then some there
  else if (Path.fault? path).isSome then none
  else match setting.files.image path with
    | .error (.fault _) => none
    | .error (.problem _) => if setting.config.strictResources then none else some there
    | .ok image =>
        let t := imageTensor r.type image r.average
        (gained room t.type t.shape there).map fun _ => some (.holding t)

section Left
variable {setting : Setting} {op : Operation} {ws : Workspace}

theorem isKept_eq (config : Config) (name : Text) (ws : Workspace) :
    isKept config name ws = ((ws.content? name).isSome && !config.forceReload) := by
  rw [isKept, Workspace.contains_eq_isSome_content]

theorem left_load {r : LoadRequest} (request : LoadRequest.ofOperation op = .ok r) :
    left? (load setting op ws) r.name =
      r.leaves setting (ws.resolve r.file) ws.room (ws.content? r.name) := by
  have loaded := load_loaded setting op ws
  generalize load setting op ws = outcome at loaded ⊢
  rcases outcome with ⟨result, after, log⟩
  dsimp only at loaded
  unfold LoadRequest.leaves
  rw [← isKept_eq]
  cases loaded with
  | malformed e bad =>
      rw [request] at bad
      cases bad
  | kept other same there =>
      cases request.symm.trans same
      rw [left_success, if_pos there]
  | unnamable other fault same wanted noPath =>
      cases request.symm.trans same
      simp [left_error, wanted, noPath]
  | unopened other e same asks closed strict =>
      cases request.symm.trans same
      simp [left_error, asks.wanted, asks.namable, closed, strict]
  | blank other e result after same asks closed lenient obtained =>
      cases request.symm.trans same
      cases result with
      | error failure =>
          rw [Workspace.gained_of_refused obtained]
          simp [Except.map, left_error, asks.wanted, asks.namable]
      | ok id =>
          obtain ⟨stored, t, held, _⟩ := Workspace.obtained_holds obtained
          rw [Workspace.gained_of_obtained obtained held]
          simp [Except.map, left_success, asks.wanted, asks.namable, closed, lenient,
            Workspace.content_of_stored stored, held]
  | refused other bytes failure after same asks opened obtained =>
      cases request.symm.trans same
      rw [Workspace.gained_of_refused obtained]
      simp [left_error, asks.wanted, asks.namable]
  | unviewable other bytes id after same asks opened obtained flat =>
      cases request.symm.trans same
      obtain ⟨_, t, held, _⟩ := Workspace.obtained_holds obtained
      rw [Workspace.gained_of_obtained obtained held]
      simp [left_error, asks.wanted, asks.namable, opened, flat]
  | filled other bytes id between old same asks opened obtained held viewable enough =>
      cases request.symm.trans same
      rw [Workspace.gained_of_obtained obtained held]
      simp [left_success, asks.wanted, asks.namable, opened, viewable, le_min_iff.mp enough,
        Workspace.content_put_of_obtained obtained]
  | short other bytes id between old same asks opened obtained held viewable cut lenient =>
      cases request.symm.trans same
      rw [Workspace.gained_of_obtained obtained held]
      simp [left_success, asks.wanted, asks.namable, opened, viewable, lenient,
        Workspace.content_put_of_obtained obtained]
  | withdrawn other bytes id between old same asks opened obtained held viewable cut strict =>
      cases request.symm.trans same
      rw [Workspace.gained_of_obtained obtained held]
      have few : ¬ (Tensor.byteCount r.type r.shape ≤ old.bytes.length ∧
          Tensor.byteCount r.type r.shape ≤ bytes.length) := by omega
      simp [left_error, asks.wanted, asks.namable, opened, strict, few]

theorem left_of_stored {name : Text} {t : Tensor} {after : Workspace}
    {result : Except Failure Unit} (stored : Stored name t ws result after) (log : List Log.Entry) :
    left? ⟨result.map fun _ => some Status.success, after, log⟩ name =
      (gained ws.room t.type t.shape (ws.content? name)).map fun _ => some (.holding t) := by
  cases stored with
  | reused id holds =>
      rw [Workspace.gained_of_holds holds]
      obtain ⟨number, old, held, _⟩ := holds
      rw [held, Except.map, left_success,
        Workspace.content_putHandle_self number (Workspace.lt_of_holding ws id old held)]
      rfl
  | made missing fits =>
      rw [Workspace.gained_of_missing missing, Workspace.room, if_pos fits, Except.map,
        left_success, Workspace.content_insertNew_self (Workspace.number_remove_self ws name)]
      rfl
  | refused missing full =>
      rw [Workspace.gained_of_missing missing, Workspace.room, full]
      rfl

theorem left_loadImage {r : ImageRequest} (request : ImageRequest.ofOperation op = .ok r) :
    left? (loadImage setting op ws) r.name =
      r.leaves setting (ws.resolve r.file) ws.room (ws.content? r.name) := by
  have pictured := loadImage_pictured setting op ws
  generalize loadImage setting op ws = outcome at pictured ⊢
  rcases outcome with ⟨result, after, log⟩
  dsimp only at pictured
  unfold ImageRequest.leaves
  rw [← isKept_eq]
  cases pictured with
  | malformed e bad =>
      rw [request] at bad
      cases bad
  | kept other same there =>
      cases request.symm.trans same
      rw [left_success, if_pos there]
  | unnamable other fault same wanted noPath =>
      cases request.symm.trans same
      simp [left_error, wanted, noPath]
  | undecodable other fault same asks broken =>
      cases request.symm.trans same
      simp [left_error, asks.wanted, asks.namable, broken]
  | unreadable other problem same asks broken strict =>
      cases request.symm.trans same
      simp [left_error, asks.wanted, asks.namable, broken, strict]
  | ignored other problem same asks broken lenient =>
      cases request.symm.trans same
      simp [left_success, asks.wanted, asks.namable, broken, lenient]
  | decoded other image result after same asks whole stored =>
      cases request.symm.trans same
      rw [left_of_stored stored]
      simp [asks.wanted, asks.namable, whole]

theorem left_convolution {name : Text} (named : op.outputs.head? = some name) :
    left? (convolution setting op ws) name =
      (convolved op ws).result.toOption.bind fun (_, y) =>
        (gained ws.room y.type y.shape (ws.content? name)).map fun _ => some (.holding y) := by
  have run := convolution_run setting op ws
  have found := convolved_convolved op ws
  generalize convolution setting op ws = outcome at run ⊢
  generalize (convolved op ws).result = value at run found ⊢
  rcases outcome with ⟨result, after, log⟩
  cases found with
  | rejected | unworded | cramped | tooLarge | unnamed =>
      cases run
      rfl
  | done x filters bias g output y prepared fitting fits isOutput =>
      rw [(op.output_zero_iff output).mp isOutput] at named
      cases named
      cases run
      exact left_of_stored (store_stored name y ws) log

end Left

theorem shortage_eq_none_iff (g : Convolution.Geometry) (ws : Workspace) (type : DataType) :
    g.shortage? ws.available.working type = none ↔ g.padding.isCountable = true ∧
      ws.workingRoom type g.paddedShape = true ∧
      (g.isTooSmall = true ∨ ws.workingRoom type g.outShape = true) := by
  unfold Convolution.Geometry.shortage? Workspace.workingRoom Tensor.canAllocate
  cases g.padding.isCountable with
  | false => simp
  | true =>
      cases Tensor.shortage? ws.available.working type g.paddedShape with
      | some fault => simp
      | none => cases g.isTooSmall <;> simp

section Agree
variable {setting : Setting} {op : Operation} {name : Text} {one other : Workspace}

theorem foundInput_of_content
    (same : ∀ input ∈ op.inputs.take 3, other.content? input = one.content? input) {index : Nat}
    (early : index < 3) : foundInput op other index = foundInput op one index := by
  unfold foundInput
  cases named : op.inputs[index]? with
  | none => rfl
  | some input =>
      have member : input ∈ op.inputs.take 3 := by
        apply List.mem_of_getElem?
        rw [List.getElem?_take_of_lt early]
        exact named
      simp only [Option.bind_some, Workspace.tensor_eq_content, same input member]

theorem prepared_of_content
    (same : ∀ input ∈ op.inputs.take 3, other.content? input = one.content? input)
    {x filters : Tensor} {bias : Option Tensor} {g : Convolution.Geometry}
    (prepared : Prepared op one x filters bias g) : Prepared op other x filters bias g where
  input := (foundInput_of_content same (by decide)).trans prepared.input
  shape := prepared.shape
  filterInput := (foundInput_of_content same (by decide)).trans prepared.filterInput
  filterShape := prepared.filterShape
  biasInput := by
    rw [foundInput_of_content same (by decide)]
    exact prepared.biasInput
  fields := prepared.fields
  biasSize := prepared.biasSize

theorem convolved_of_agree (agree : Workspace.Agree (op.inputs.take 3) one other)
    {value : Text × Tensor} (done : (convolved op one).result = .ok value) :
    (convolved op other).result = .ok value := by
  have found := convolved_convolved op one
  rw [done] at found
  cases found with
  | done x filters bias g name y prepared room fits named =>
      apply convolved_of_room (prepared_of_content agree.content prepared) _ fits named
      rw [shortage_eq_none_iff, agree.workingRoom, ← shortage_eq_none_iff]
      exact room

theorem toOption_convolved_of_agree (agree : Workspace.Agree (op.inputs.take 3) one other) :
    (convolved op other).result.toOption = (convolved op one).result.toOption := by
  cases first : (convolved op one).result with
  | ok value => rw [convolved_of_agree agree first]
  | error e =>
      cases second : (convolved op other).result with
      | error _ => rfl
      | ok value =>
          rw [convolved_of_agree (Workspace.agree_symm agree) second] at first
          cases first

theorem load_malformed {e : Failure} (bad : LoadRequest.ofOperation op = .error e)
    (ws : Workspace) : load setting op ws = ⟨.error e, ws, []⟩ := by
  simp only [load, Action.bind_run, Action.ofExcept_run, bad, Outcome.andThen_error]

theorem loadImage_malformed {e : Failure} (bad : ImageRequest.ofOperation op = .error e)
    (ws : Workspace) : loadImage setting op ws = ⟨.error e, ws, []⟩ := by
  simp only [loadImage, Action.bind_run, Action.ofExcept_run, bad, Outcome.andThen_error]

theorem exists_loadRequest {ws : Workspace} {answer : Option Status}
    (done : (load setting op ws).result = .ok answer) :
    ∃ r, LoadRequest.ofOperation op = .ok r := by
  cases request : LoadRequest.ofOperation op with
  | ok r => exact ⟨r, rfl⟩
  | error e =>
      rw [load_malformed request] at done
      cases done

theorem exists_imageRequest {ws : Workspace} {answer : Option Status}
    (done : (loadImage setting op ws).result = .ok answer) :
    ∃ r, ImageRequest.ofOperation op = .ok r := by
  cases request : ImageRequest.ofOperation op with
  | ok r => exact ⟨r, rfl⟩
  | error e =>
      rw [loadImage_malformed request] at done
      cases done

theorem left_load_of_agree (named : op.outputs.head? = some name)
    (agree : Workspace.Agree [name] one other) :
    left? (load setting op other) name = left? (load setting op one) name := by
  cases request : LoadRequest.ofOperation op with
  | error e => rw [load_malformed request, load_malformed request, left_error, left_error]
  | ok r =>
      rw [LoadRequest.head_outputs request] at named
      cases named
      rw [left_load request, left_load request, agree.room, Workspace.resolve, Workspace.resolve,
        agree.baseName, agree.content r.name List.mem_cons_self]

theorem left_loadImage_of_agree (named : op.outputs.head? = some name)
    (agree : Workspace.Agree [name] one other) :
    left? (loadImage setting op other) name = left? (loadImage setting op one) name := by
  cases request : ImageRequest.ofOperation op with
  | error e =>
      rw [loadImage_malformed request, loadImage_malformed request, left_error, left_error]
  | ok r =>
      rw [ImageRequest.head_outputs request] at named
      cases named
      rw [left_loadImage request, left_loadImage request, agree.room, Workspace.resolve,
        Workspace.resolve, agree.baseName, agree.content r.name List.mem_cons_self]

theorem left_convolution_of_agree (named : op.outputs.head? = some name)
    (agree : Workspace.Agree (name :: op.inputs.take 3) one other) :
    left? (convolution setting op other) name = left? (convolution setting op one) name := by
  have inputs := Workspace.agree_of_subset (List.subset_cons_self _ _) agree
  rw [left_convolution named, left_convolution named, toOption_convolved_of_agree inputs,
    agree.room, agree.content name List.mem_cons_self]

end Agree

end Handler
end TensorBundle
