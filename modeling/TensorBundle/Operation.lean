import TensorBundle.Tensor.Basic
import TensorBundle.Error
/-!
Operations: the entries of a manifest. An operation names its tensors and carries further fields,
which are read through typed accessors. Each accessor gives a value or an error that names the
field.
-/
namespace TensorBundle

structure Operation where
  type : Text
  inputs : List Text := []
  outputs : List Text := []
  fields : List (Text × Json) := []

namespace Operation

def reservedKeys : List Text := ["type", "inputs", "outputs"]

/-- The tensor names under a key of an entry; without the key there are none. -/
def namesOfEntry (type key : Text) (members : List (Text × Json)) :
    Except BundleError (List Text) :=
  match Json.member? key members with
  | none => .ok []
  | some value =>
    let names := match value with
      | .array items => Json.texts? items
      | _ => none
    match names with
    | some names => .ok names
    | none => .error (.configuration (.namesNotTexts key) (some key) (some value) (some type))

def ofJson (entry : Json) : Except BundleError Operation :=
  match entry with
  | .object members =>
    match Json.member? "type" members with
    | some (.text type) => do
      let inputs ← namesOfEntry type "inputs" members
      let outputs ← namesOfEntry type "outputs" members
      pure { type, inputs, outputs, fields := members.filter fun m => !reservedKeys.contains m.1 }
    | found => .error (.configuration .typeNotText (some "type") (some (found.getD .null)) none)
  | _ => .error (.configuration .notAnObject none (some entry) none)

def toJson (op : Operation) : Json :=
  .object (op.fields.foldl (fun members (key, value) => Json.bindMember key value members)
    [("type", .text op.type), ("inputs", .array (op.inputs.map .text)),
      ("outputs", .array (op.outputs.map .text))])

def has (op : Operation) (key : Text) : Bool := (Json.member? key op.fields).isSome

def get? (op : Operation) (key : Text) : Option Json := Json.member? key op.fields

def badField (op : Operation) (key : Text) (value : Json) (problem : ConfigurationProblem) :
    BundleError :=
  .configuration problem (some key) (some value) (some op.type)

def require (op : Operation) (key : Text) (default : Option Json) : Except BundleError Json :=
  match op.get? key, default with
  | some value, _ => .ok value
  | none, some value => .ok value
  | none, none => .error (.configuration (.fieldMissing key) (some key) none (some op.type))

def getText (op : Operation) (key : Text) (default : Option Json) : Except BundleError Text := do
  let value ← op.require key default
  match value with
  | .text t => pure t
  | _ => .error (op.badField key value (.fieldNotText key))

def getInt (op : Operation) (key : Text) (default : Option Json) : Except BundleError Int := do
  let value ← op.require key default
  match value with
  | .int n => pure n
  | _ => .error (op.badField key value (.fieldNotInteger key))

def getInts (op : Operation) (key : Text) (default : Option Json) :
    Except BundleError (List Int) := do
  let value ← op.require key default
  let found := match value with
    | .int n => some [n]
    | .array items => Json.ints? items
    | _ => none
  match found with
  | some ints => pure ints
  | none => .error (op.badField key value (.fieldNotIntegers key))

/-- A number of a field as a floating-point number. An integer may lie beyond their range. -/
def toNumber : Json → Option (Except Fault Binary)
  | .real x => some (.ok x)
  | .int n => some (match Binary.double.round (Binary.ofInt n) with
    | .infinite _ => .error .integerBeyondFloat
    | x => .ok x)
  | _ => none

def getNumbers (op : Operation) (key : Text) (default : Option Json) :
    Except Failure (List Binary) := do
  let value ← (op.require key default).mapError BundleError.raised
  let found := match value with
    | .array items => items.mapM toNumber
    | _ => none
  match found with
  | some numbers => (numbers.mapM id).mapError Failure.fault
  | none => .error (op.badField key value (.fieldNotNumbers key)).raised

def getShape (op : Operation) (key : Text) : Except BundleError Shape := do
  let dimensions ← op.getInts key none
  match Shape.ofInts? dimensions with
  | some shape => pure shape
  | none => .error (op.badField key (.array (dimensions.map .int)) (.negativeDimension key))

def getDataType (op : Operation) (key : Text) (default : Option Json) :
    Except BundleError DataType := do
  let name ← op.getText key default
  match DataType.ofManifest? name with
  | some type => pure type
  | none => .error (op.badField key (.text name) (.unknownDataType key))

/-- The name at an index of a list of names. A negative index counts from the end; one past the
end is an error of the operation, one before the start a fault. -/
def nameAt (op : Operation) (names : List Text) (index : Int) (key : Text)
    (tooFew : Int → Int → ConfigurationProblem) : Except Failure Text :=
  if (names.length : Int) ≤ index then
    .error (BundleError.configuration (tooFew (index + 1) names.length) (some key) none
      (some op.type)).raised
  else
    let place := if index < 0 then index + names.length else index
    match (if place < 0 then none else names[place.toNat]?) with
    | some name => .ok name
    | none => .error (.fault .indexOutOfRange)

def input (op : Operation) (index : Int) : Except Failure Text :=
  op.nameAt op.inputs index "inputs" .tooFewInputs

def output (op : Operation) (index : Int) : Except Failure Text :=
  op.nameAt op.outputs index "outputs" .tooFewOutputs

def text (op : Operation) : Text :=
  op.type ++ "(" ++ Text.join ", " op.inputs ++ ") -> (" ++ Text.join ", " op.outputs ++ ")"

end Operation
end TensorBundle
