import TensorBundle.Setting
import TensorBundle.Error
import TensorBundle.Tensor.Basic
import TensorBundle.Tensor.Nested
/-!
The workspace: tensors under names. It numbers the handles that it makes; a number belongs to one
handle for good, whether or not the handle is still stored. A handle that is removed is released,
and a released handle is empty. An action on a workspace gives a result or fails; what it did before
it failed stays done.
-/
namespace TensorBundle

structure Memory where
  tensor : Tensor.Room := {}
  working : Tensor.Room := {}
  deriving DecidableEq, Repr

/-- A store of named tensors. `entries` maps names to numbers of handles, and `handles` holds every
handle made so far. `memory` is the memory that there is when that many handles were made. -/
structure Workspace where
  baseName : Text := []
  entries : List (Text × Nat) := []
  handles : List Handle := []
  memory : List Memory := []
  deriving DecidableEq, Repr

namespace Workspace

def available (ws : Workspace) : Memory := ws.memory[ws.handles.length]?.getD {}

def handle (ws : Workspace) (id : Nat) : Handle := ws.handles[id]?.getD .empty

def number? (ws : Workspace) (name : Text) : Option Nat := ws.entries.lookup name

def contains (ws : Workspace) (name : Text) : Bool := (ws.number? name).isSome

def lookup? (ws : Workspace) (name : Text) : Option Nat :=
  (ws.number? name).filter fun id => !(ws.handle id).isEmpty

def tensor? (ws : Workspace) (name : Text) : Option Tensor :=
  (ws.number? name).bind fun id => (ws.handle id).tensor?

def names (ws : Workspace) : List Text := Text.sorted (ws.entries.map Prod.fst)

def size (ws : Workspace) : Nat := ws.entries.length

def byteCount (ws : Workspace) : Nat :=
  ws.entries.foldr (fun e total => (ws.handle e.2).byteCount + total) 0

def putHandle (ws : Workspace) (id : Nat) (h : Handle) : Workspace :=
  { ws with handles := ws.handles.set id h }

def release (ws : Workspace) (id : Nat) : Workspace := ws.putHandle id .empty

def insertNew (ws : Workspace) (name : Text) (h : Handle) : Workspace :=
  { ws with entries := ws.entries ++ [(name, ws.handles.length)], handles := ws.handles ++ [h] }

def remove (ws : Workspace) (name : Text) : Workspace :=
  match ws.number? name with
  | none => ws
  | some id => { ws.release id with entries := ws.entries.filter (·.1 ≠ name) }

def clear (ws : Workspace) : Workspace := (ws.entries.map Prod.fst).foldl remove ws

def close (ws : Workspace) : Workspace := ws.clear

def resolve (ws : Workspace) (file : Text) : Text := Path.join ws.baseName file

/-- The line of a handle in the summary: its dimensions and its first element. A handle without
dimensions has no line. -/
def summaryLine (name : Text) (h : Handle) : Except Fault Text :=
  match h.dimensions? with
  | none => .error .missingDimensions
  | some dimensions =>
    let value : Text := match h.tensor?.bind Tensor.firstElement? with
      | some x => x ++ " ..."
      | none => "<No Data>"
    .ok ("\t" ++ name ++ ": [" ++ Text.join " " (dimensions.map Text.integer) ++ "] " ++ value)

def summary (ws : Workspace) : Except Fault Text := do
  let entries ← ws.names.mapM fun name =>
    summaryLine name (((ws.number? name).map ws.handle).getD .empty)
  pure (Text.lines ("Workspace:" :: entries))

def text (ws : Workspace) : Text :=
  "Workspace(base_name='" ++ ws.baseName ++ "', tensors=" ++ Text.natural ws.size ++ ", nbytes="
    ++ Text.natural ws.byteCount ++ ")"

end Workspace

structure Outcome (α : Type) where
  result : Except Failure α
  workspace : Workspace
  log : List Log.Entry

def Action (α : Type) : Type := Workspace → Outcome α

namespace Action

def pure {α : Type} (a : α) : Action α := fun ws => ⟨.ok a, ws, []⟩

def bind {α β : Type} (x : Action α) (f : α → Action β) : Action β := fun ws =>
  let first := x ws
  match first.result with
  | .error e => ⟨.error e, first.workspace, first.log⟩
  | .ok a =>
    let second := f a first.workspace
    ⟨second.result, second.workspace, first.log ++ second.log⟩

instance : Monad Action where
  pure := pure
  bind := bind

def fail {α : Type} (e : Failure) : Action α := fun ws => ⟨.error e, ws, []⟩

def reject {α : Type} (e : BundleError) : Action α := fail (.error e)

def ofExcept {α : Type} : Except Failure α → Action α
  | .ok a => pure a
  | .error e => fail e

def ofChecked {α : Type} (r : Except BundleError α) : Action α :=
  ofExcept (r.mapError BundleError.raised)

def read : Action Workspace := fun ws => ⟨.ok ws, ws, []⟩

def modify (f : Workspace → Workspace) : Action Unit := fun ws => ⟨.ok (), f ws, []⟩

def tell (level : Log.Level) (source : Log.Source) (message : Text) : Action Unit := fun ws =>
  ⟨.ok (), ws, [⟨level, source, message⟩]⟩

def rescue {α : Type} (f : BundleError → α) (x : Action α) : Action α := fun ws =>
  let outcome := x ws
  match outcome.result with
  | .error (.error e) => { outcome with result := .ok (f e) }
  | _ => outcome

end Action
end TensorBundle

namespace TensorBundle.Workspace

def isLike (ws : Workspace) (type : DataType) (shape : Shape) (id : Nat) : Bool :=
  (ws.handle id).isLike (some type) (shape.map Int.ofNat)

/-- What is raised where a tensor cannot be had. The problem is worded before the bytes are counted
out. -/
def allocationFailure (name : Text) (type : DataType) (shape : Shape) : Failure :=
  let problem := MemoryProblem.tensor name shape
  if problem.isWritable then
    match BundleError.outOfMemory problem (some (Tensor.byteCount type shape)) (some name) with
    | .ok e => .error e
    | .error f => .fault f
  else .fault .unwritableInteger

/-- A new tensor of zeros under a name. What was stored there is removed first, also if there is no
memory for the new one. -/
def create (name : Text) (type : DataType) (shape : Shape) : Action Nat := do
  Action.modify (·.remove name)
  let ws ← Action.read
  if Tensor.canAllocate ws.available.tensor type shape then
    Action.modify (·.insertNew name (.holding (.zeros type shape)))
    Action.tell .debug .workspace ("Allocated tensor '" ++ name ++ "' " ++ shapeText shape ++ " "
      ++ type.label ++ " (" ++ Text.natural (Tensor.byteCount type shape) ++ " bytes)")
    pure ws.handles.length
  else Action.fail (allocationFailure name type shape)

def obtain (name : Text) (type : DataType) (shape : Shape) : Action Nat := do
  let ws ← Action.read
  match (ws.number? name).filter (ws.isLike type shape) with
  | some id =>
    Action.tell .debug .workspace ("Reusing tensor '" ++ name ++ "' " ++ shapeText shape)
    pure id
  | none => create name type shape

def negativeFailure (name : Text) (dimensions : List Int) : Failure :=
  if dimensions.all Text.isWritable then
    .error (.validation .negativeDimension (some name) none
      (some (Text.bracketed (dimensions.map Text.integer))))
  else .fault .unwritableInteger

/-- Looks up a name, or with a type and dimensions gets or creates the tensor. A plain look-up that
finds nothing gives no number: its answer is an empty handle of its own. -/
def get (name : Text) (type : Option DataType) (dimensions : Option Json) : Action (Option Nat) :=
  match type, dimensions with
  | none, none => do
    let ws ← Action.read
    pure (ws.lookup? name)
  | some type, some document => do
    let dimensions ← Action.ofExcept ((Shape.ofJson document).mapError Failure.fault)
    match Shape.ofInts? dimensions with
    | some shape => some <$> obtain name type shape
    | none => Action.fail (negativeFailure name dimensions)
  | _, _ => Action.reject (.validation .typeOrShapeMissing (some name) none none)

def set (name : Text) (value : NumericArray) : Action Nat :=
  match value.type? with
  | none =>
    Action.reject (.validation .unsupportedElements (some name)
      (some "float32, float64 or uint8") (some value.elementName))
  | some type => do
    let id ← obtain name type value.shape
    Action.modify (·.putHandle id (.holding ⟨type, value.shape, value.bytes⟩))
    pure id

end TensorBundle.Workspace
