import TensorBundle.Tensor.Basic
/-!
Arrays that a caller hands in, as bytes or as lists in lists. An array has elements of any kind,
given by name; only those of an element type of tensors can be stored.
-/
namespace TensorBundle

structure NumericArray where
  elementName : Text
  shape : Shape
  bytes : List UInt8
  deriving DecidableEq, Repr

namespace NumericArray

def type? (a : NumericArray) : Option DataType := DataType.ofElementName? a.elementName

def IsSound (a : NumericArray) : Prop :=
  ∀ type, a.type? = some type → a.bytes.length = Tensor.byteCount type a.shape

def ofElements (elementName : Text) (shape : Shape) (elements : List Binary) : NumericArray :=
  match DataType.ofElementName? elementName with
  | some type => ⟨elementName, shape, (Tensor.ofElements type shape elements).bytes⟩
  | none => ⟨elementName, shape, []⟩

/-- How far apart two elements are that follow each other along each axis. -/
def strides : Shape → List Nat
  | [] => []
  | _ :: rest => numel rest :: strides rest

/-- The places of the elements of an array, in row-major order, given the size of each axis and
how far apart its elements are. -/
def places : List (Nat × Nat) → List Nat
  | [] => [0]
  | (size, stride) :: rest =>
    (List.range size).flatMap fun i => (places rest).map fun k => i * stride + k

def transpose (a : NumericArray) (axes : List Nat) : NumericArray :=
  let steps := strides a.shape
  let shape := axes.map fun axis => a.shape[axis]?.getD 0
  let layout := axes.map fun axis => (a.shape[axis]?.getD 0, steps[axis]?.getD 0)
  match a.type? with
  | none => { a with shape }
  | some type =>
    let elements := (Tensor.groups type.size a.bytes).toArray
    { a with shape, bytes := (places layout).flatMap fun k => elements[k]?.getD [] }

end NumericArray
end TensorBundle

namespace TensorBundle.NumericArray

inductive Leaf where
  | truth
  | signed
  | unsigned
  | float
  | text (length : Nat)
  | object
  deriving DecidableEq, Repr

namespace Leaf

def textLength : Leaf → Nat
  | .truth => 5
  | .signed | .unsigned => 21
  | .float => 32
  | .text length => length
  | .object => 0

def join : Leaf → Leaf → Leaf
  | .object, _ | _, .object => .object
  | .text m, b => .text (max m b.textLength)
  | a, .text n => .text (max a.textLength n)
  | .float, _ | _, .float => .float
  | .signed, .unsigned | .unsigned, .signed => .float
  | .signed, _ | _, .signed => .signed
  | .unsigned, _ | _, .unsigned => .unsigned
  | .truth, .truth => .truth

def elementName : Leaf → Text
  | .truth => "bool"
  | .signed => "int64"
  | .unsigned => "uint64"
  | .float => "float64"
  | .text length => "<U" ++ Text.natural (max 1 length)
  | .object => "object"

def ofJson : Json → Leaf
  | .bool _ => .truth
  | .int n =>
    if -(Nat.pow 2 63 : Nat) ≤ n ∧ n < (Nat.pow 2 63 : Nat) then .signed
    else if 0 ≤ n ∧ n < (Nat.pow 2 64 : Nat) then .unsigned else .object
  | .real _ => .float
  | .text t => .text t.length
  | _ => .object

end Leaf

def leafNumber : Json → Binary
  | .bool b => Binary.ofInt b.toNat
  | .int n => Binary.ofInt n
  | .real x => x
  | _ => .nan

def sharedDimensions : Shape → Shape → Shape
  | a :: s, b :: t => if a = b then a :: sharedDimensions s t else []
  | _, _ => []

mutual

/-- The dimensions of a document and whether all its lists fit them. -/
def discover : Json → Shape × Bool
  | .array items => match discoverItems items with
    | none => ([0], true)
    | some (shape, fits) => (items.length :: shape, fits)
  | _ => ([], true)

def discoverItems : List Json → Option (Shape × Bool)
  | [] => none
  | item :: rest =>
    let (shape, fits) := discover item
    match discoverItems rest with
    | none => some (shape, fits)
    | some (others, othersFit) =>
      some (sharedDimensions shape others, fits && othersFit && shape == others)

end

mutual

def leaves : Json → List Json
  | .array items => leavesOfItems items
  | document => [document]

def leavesOfItems : List Json → List Json
  | [] => []
  | item :: rest => leaves item ++ leavesOfItems rest

end

def leafKind : List Json → Leaf
  | [] => .float
  | first :: rest => rest.foldl (fun kind leaf => kind.join (Leaf.ofJson leaf)) (Leaf.ofJson first)

def ofJson (document : Json) : Except Fault NumericArray :=
  match discover document with
  | (shape, true) =>
    let leaves := leaves document
    .ok (ofElements (leafKind leaves).elementName shape (leaves.map leafNumber))
  | (shape, false) => .error (.raggedArray shape)

end TensorBundle.NumericArray
