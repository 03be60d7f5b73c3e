import TensorBundle.Setting
import TensorBundle.Operation
import TensorBundle.Tensor.Basic
import TensorBundle.Workspace
/-!
Handlers: what operations of one type do. A handler works on a workspace and answers with a
status, or with nothing when all went well. The built-in ones load a tensor or an image from a file,
and convolve a tensor with filters.
-/
namespace TensorBundle

abbrev Work := Setting → Operation → Action (Option Status)

/-- What operations of one type do. Two handlers with one mark are the same. -/
structure Handler where
  mark : Nat
  work : Work

namespace Handler

def inputTensor (op : Operation) (index : Int) : Action Tensor := do
  let name ← Action.ofExcept (op.input index)
  let ws ← Action.read
  match ws.tensor? name with
  | some t => pure t
  | none => Action.reject (.configuration (.inputMissing name) (some "inputs") none (some op.type))

/-- Puts a tensor under a name: into the handle that is there if that has its type and shape,
otherwise into a new one. -/
def store (name : Text) (t : Tensor) : Action Unit := do
  let id ← Workspace.obtain name t.type t.shape
  Action.modify (·.putHandle id (.holding t))

def isCached (config : Config) (name : Text) : Action Bool := do
  let ws ← Action.read
  if ws.contains name && !config.forceReload then
    Action.tell .debug .loading ("Tensor '" ++ name ++ "' already in workspace; not reloading")
    pure true
  else pure false

/-- What there is under the path of a resource file. A text that is no path is a fault. -/
def resource {α : Type} (read : Text → α) (path : Text) : Action α :=
  match Path.fault? path with
  | some fault => Action.fail (.fault fault)
  | none => pure (read path)

def warning (path : Text) (e : BundleError) : Text :=
  if path = [] then e.headline else e.headline ++ " (" ++ path ++ ")"

/-- What becomes of a problem with a file: an error under the strict policy, otherwise a warning.
The counts are those of bytes in memory. -/
def resourceFailure (config : Config) (path : Text) (problem : ResourceProblem)
    (expectedBytes readBytes : Option Int) : Action (Option Status) :=
  let e := BundleError.resource problem (some path) expectedBytes readBytes
  if config.strictResources then Action.reject e
  else do
    Action.tell .warning .loading (warning path e)
    pure (some .success)

end Handler
end TensorBundle

namespace TensorBundle.Handler

structure LoadRequest where
  name : Text
  file : Text
  type : DataType
  shape : Shape

def LoadRequest.ofOperation (op : Operation) : Except Failure LoadRequest := do
  let name ← op.output 0
  let file ← (op.getText "fileName" none).mapError BundleError.raised
  let type ← (op.getDataType "dataType" none).mapError BundleError.raised
  let shape ← (op.getShape "shape").mapError BundleError.raised
  pure ⟨name, file, type, shape⟩

/-- Reads the bytes of a file into a tensor, as many as there are and have room. Bytes that the file
does not reach stay as they are. The answer is the number of bytes read. -/
def fill (id : Nat) (bytes : List UInt8) : Action Nat := do
  let ws ← Action.read
  let old ← Action.ofExcept ((ws.handle id).view.mapError Failure.fault)
  let taken := bytes.take old.length
  match ws.handle id with
  | .holding t =>
    Action.modify (·.putHandle id (.holding { t with bytes := Tensor.overwrite old 0 taken }))
  | .vacant .. => pure ()
  pure taken.length

/-- Loads a tensor from a file. A file that is missing or short is an error under the strict policy,
which also removes the tensor of a short one; otherwise the tensor is made all the same. -/
def load : Work := fun setting op => do
  let request ← Action.ofExcept (LoadRequest.ofOperation op)
  if ← isCached setting.config request.name then pure (some .success)
  else
    let ws ← Action.read
    let path := ws.resolve request.file
    match ← resource setting.files.bytes path with
    | .error e =>
      let status ← resourceFailure setting.config path (.tensorUnreadable e.reason) none none
      let _ ← Workspace.obtain request.name request.type request.shape
      pure status
    | .ok bytes =>
      let id ← Workspace.obtain request.name request.type request.shape
      let read ← fill id bytes
      let expected := Tensor.byteCount request.type request.shape
      if read < expected then
        if setting.config.strictResources then Action.modify (·.remove request.name)
        resourceFailure setting.config path (.tensorTooShort request.name) (some expected)
          (some read)
      else
        Action.tell .debug .loading ("Loaded '" ++ request.name ++ "' from " ++ path ++ " ("
          ++ Text.natural read ++ " bytes)")
        pure (some .success)

structure ImageRequest where
  name : Text
  file : Text
  type : DataType
  average : Option (List Binary)

def ImageRequest.ofOperation (op : Operation) : Except Failure ImageRequest := do
  let name ← op.output 0
  let file ← (op.getText "fileName" none).mapError BundleError.raised
  let type ← (op.getDataType "dataType" (some (.text "single"))).mapError BundleError.raised
  if op.has "averageColor" then
    let average ← op.getNumbers "averageColor" none
    if average.length = 3 then pure ⟨name, file, type, some average⟩
    else
      .error (.error (.validation .averageSize (some "averageColor") (some "3 values")
        (some (Text.natural average.length))))
  else pure ⟨name, file, type, none⟩

def plane (image : Image) (color : Pixel → UInt8) : List Binary :=
  image.pixels.map fun p => Binary.ofInt (color p).toNat

def planes (image : Image) : List (List Binary) :=
  [plane image Pixel.red, plane image Pixel.green, plane image Pixel.blue]

def imageElements (type : DataType) (image : Image) : Option (List Binary) → List Binary
  | none => (planes image).flatten
  | some average =>
    ((planes image).zip average).flatMap fun (levels, a) =>
      levels.map fun level => type.sub (type.fit level) (type.fit a)

def imageTensor (type : DataType) (image : Image) (average : Option (List Binary)) : Tensor :=
  .ofElements type [1, 3, image.height, image.width] (imageElements type image average)

/-- Loads an image from a file. A file that is no image is an error under the strict policy;
otherwise the workspace stays as it is. -/
def loadImage : Work := fun setting op => do
  let request ← Action.ofExcept (ImageRequest.ofOperation op)
  if ← isCached setting.config request.name then pure (some .success)
  else
    let ws ← Action.read
    let path := ws.resolve request.file
    match ← resource setting.files.image path with
    | .error (.fault fault) => Action.fail (.fault fault)
    | .error (.problem reason) =>
      resourceFailure setting.config path (.imageUnreadable reason) none none
    | .ok image =>
      store request.name (imageTensor request.type image request.average)
      Action.tell .debug .loading ("Loaded image '" ++ request.name ++ "' from " ++ path ++ " ("
        ++ Text.natural image.width ++ "x" ++ Text.natural image.height ++ ")")
      pure (some .success)

open TensorBundle.Convolution

def pair (key : Text) (values : List Int) : Except BundleError (Int × Int) :=
  match values with
  | [both] => .ok (both, both)
  | [vertical, horizontal] => .ok (vertical, horizontal)
  | _ => .error (.configuration (.notAPair key) (some key) (some (.array (values.map .int))) none)

/-- One value for all sides, a value for top and bottom and one for the others, or a value for top,
left, bottom and right. -/
def sides (values : List Int) : Except BundleError (Int × Int × Int × Int) :=
  match values with
  | [all] => .ok (all, all, all, all)
  | [vertical, horizontal] => .ok (vertical, horizontal, vertical, horizontal)
  | [top, left, bottom, right] => .ok (top, left, bottom, right)
  | _ => .error (.configuration .notAPadding (some "pad") (some (.array (values.map .int))) none)

/-- The stride and the padding of an operation. Strides must be positive, paddings not negative. -/
def strideAndPadding (op : Operation) : Except BundleError (Stride × Padding) := do
  let (vertical, horizontal) ← pair "stride" (← op.getInts "stride" (some (.array [.int 1])))
  let (top, left, bottom, right) ← sides (← op.getInts "pad" (some (.array [.int 0])))
  if min vertical horizontal ≤ 0 ∨ min (min top left) (min bottom right) < 0 then
    .error (.configuration .strideOrPad (some "stride/pad")
      (some (.object [("stride", .array [.int vertical, .int horizontal]),
        ("pad", .array [.int top, .int left, .int bottom, .int right])]))
      (some op.type))
  else
    pure (⟨vertical.toNat, horizontal.toNat⟩, ⟨top.toNat, left.toNat, bottom.toNat, right.toNat⟩)

def batched (shape : Shape) : Except BundleError Shape :=
  if shape.length = 3 then .ok (1 :: shape)
  else if shape.length = 4 then .ok shape
  else
    .error (.validation .inputRank none (some "CHW or NCHW")
      (some (Text.natural shape.length ++ "D")))

def sizes? (input filters : Shape) (stride : Stride) (padding : Padding) : Option Geometry :=
  match input, filters with
  | [batch, channels, height, width], [count, filterChannels, kernelHeight, kernelWidth] =>
    if filterChannels = channels then
      some { batch, channels, height, width, filters := count, kernelHeight, kernelWidth, stride,
             padding }
    else none
  | _, _ => none

def filterMismatch (name : Text) (input filters : Shape) : BundleError :=
  .validation .filterChannels (some name)
    (some ("[O, " ++ Text.natural (input[1]?.getD 0) ++ ", Kh, Kw]")) (some (shapeText filters))

def checkBias (op : Operation) (filters : Nat) (bias : Tensor) : Except Failure Unit := do
  let size := numel bias.shape
  if size = filters then pure ()
  else
    let name ← op.input 2
    .error (.error (.validation .biasSize (some name) (some (Text.natural filters))
      (some (Text.natural size))))

def biasTensor (op : Operation) : Action (Option Tensor) :=
  if 2 < op.inputs.length then some <$> inputTensor op 2 else pure none

/-- Finds room for the arrays that a convolution works on. Where there is none that is a fault, for
they are no tensors of the workspace. -/
def reserve (type : DataType) (g : Geometry) : Action Unit := do
  let ws ← Action.read
  match g.shortage? ws.available.working type with
  | some fault => Action.fail (.fault fault)
  | none => pure ()

def convolvedWith (op : Operation) (x filters : Tensor) (bias : Option Tensor) (shape : Shape)
    (g : Geometry) : Action (Text × Tensor) := do
  reserve x.type g
  match convolve g x filters bias with
  | none =>
    let name ← Action.ofExcept (op.input 0)
    Action.reject (.validation .filtersTooLarge (some name) none (some (shapeText shape)))
  | some result =>
    let name ← Action.ofExcept (op.output 0)
    pure (name, result)

def convolved (op : Operation) : Action (Text × Tensor) := do
  let x ← inputTensor op 0
  let shape ← Action.ofChecked (batched x.shape)
  let filters ← inputTensor op 1
  let bias ← biasTensor op
  let (stride, padding) ← Action.ofChecked (strideAndPadding op)
  match sizes? shape filters.shape stride padding with
  | none =>
    let name ← Action.ofExcept (op.input 1)
    Action.reject (filterMismatch name shape filters.shape)
  | some g =>
    if let some b := bias then Action.ofExcept (checkBias op g.filters b)
    convolvedWith op x filters bias shape g

def convolution : Work := fun _ op => do
  let (name, result) ← convolved op
  store name result
  pure (some .success)

end TensorBundle.Handler
