import TensorBundle.Binary
import TensorBundle.Error
import TensorBundle.Text
/-!
Tensors: an element type, a shape and the bytes of the elements, in row-major order and least
significant byte first. A handle refers to a tensor or is empty. The convolution of tensors is a sum
of products for each place of the filters.
-/
namespace TensorBundle

inductive DataType where
  | float32
  | float64
  | char
  deriving DecidableEq, Repr

namespace DataType

def size : DataType → Nat
  | .float32 => 4
  | .float64 => 8
  | .char => 1

def number : DataType → Nat
  | .float32 => 1
  | .float64 => 2
  | .char => 3

def name : DataType → Text
  | .float32 => "Float32"
  | .float64 => "Float64"
  | .char => "Char"

def label : DataType → Text
  | .float32 => "float32"
  | .float64 => "float64"
  | .char => "char"

def elementName : DataType → Text
  | .float32 => "float32"
  | .float64 => "float64"
  | .char => "uint8"

def ofName? (t : Text) : Option DataType :=
  [.float32, .float64, .char].find? fun d : DataType => d.name == t

/-- The type that a manifest declares; it has a word for two of the three. -/
def ofManifest? (t : Text) : Option DataType :=
  if t = "single" then some .float32 else if t = "double" then some .float64 else none

def codes : List (Text × DataType) :=
  [("f4", .float32), ("f", .float32), ("f8", .float64), ("d", .float64), ("u1", .char),
    ("B", .char)]

def words : List (Text × DataType) :=
  [("float32", .float32), ("single", .float32), ("float64", .float64), ("double", .float64),
    ("float", .float64), ("uint8", .char), ("ubyte", .char)]

/-- The type of elements described by a name or a code. A code may name the byte order; only
elements of one byte are the same in both orders. -/
def ofElementName? (t : Text) : Option DataType :=
  match t with
  | mark :: code =>
    if mark = Code.ofChar '>' then (codes.lookup code).filter (·.size == 1)
    else if mark = Code.ofChar '<' ∨ mark = Code.ofChar '=' ∨ mark = Code.ofChar '|' then
      codes.lookup code
    else (words ++ codes).lookup t
  | [] => none

def format? : DataType → Option Binary.Format
  | .float32 => some Binary.single
  | .float64 => some Binary.double
  | .char => none

/-- The number of the type that stands for a number. A byte keeps the integer part modulo 256, and
has zero for what is no finite number. -/
def fit (t : DataType) (x : Binary) : Binary :=
  match t.format? with
  | some f => f.round x
  | none => Binary.ofInt ((x.truncate?.getD 0) % 256)

def add (t : DataType) (x y : Binary) : Binary := t.fit (x.add y)

def sub (t : DataType) (x y : Binary) : Binary := t.fit (x.sub y)

def mul (t : DataType) (x y : Binary) : Binary := t.fit (x.mul y)

def join : DataType → DataType → DataType
  | .float64, _ | _, .float64 => .float64
  | .float32, _ | _, .float32 => .float32
  | .char, .char => .char

def decode (t : DataType) (bytes : List UInt8) : Binary :=
  match t.format? with
  | some f => f.ofBits (Bytes.littleEndian bytes)
  | none => Binary.ofInt (Bytes.littleEndian bytes)

def encode (t : DataType) (x : Binary) : List UInt8 :=
  match t.format? with
  | some f => Bytes.ofNat t.size (f.toBits x)
  | none => Bytes.ofNat t.size ((x.truncate?.getD 0) % 256).toNat

end DataType

abbrev Shape := List Nat

def numel {α : Type} [Mul α] [OfNat α 1] (dimensions : List α) : α :=
  dimensions.foldl (· * ·) 1

namespace Shape

/-- The integer that a document gives as a dimension: numbers lose their fraction, truth values
count as one and zero, and texts are read. -/
def dimension : Json → Except Fault Int
  | .int n => .ok n
  | .bool b => .ok b.toNat
  | .real .nan => .error .nanAsInteger
  | .real (.infinite _) => .error .infinityAsInteger
  | .real x => .ok (x.truncate?.getD 0)
  | .text t => match t.toInteger with
    | .ok n => .ok n
    | .error .malformed => .error (.malformedInteger t)
    | .error (.tooManyDigits count) => .error (.tooManyDigits count)
  | document => .error (.notIntegral document)

def items : Json → Except Fault (List Json)
  | .array items => .ok items
  | .text t => .ok (t.map fun c => .text [c])
  | .object members => .ok (members.map fun (name, _) => .text name)
  | document => .error (.notIterable document)

def ofJson (document : Json) : Except Fault (List Int) := do
  (← items document).mapM dimension

def ofInts? (dimensions : List Int) : Option Shape :=
  dimensions.mapM fun d => if 0 ≤ d then some d.toNat else none

end Shape

structure Tensor where
  type : DataType
  shape : Shape
  bytes : List UInt8
  deriving DecidableEq, Repr

namespace Tensor

def byteCount (type : DataType) (shape : Shape) : Nat := numel shape * type.size

def IsSound (t : Tensor) : Prop := t.bytes.length = byteCount t.type t.shape

def zeros (type : DataType) (shape : Shape) : Tensor :=
  ⟨type, shape, List.replicate (byteCount type shape) 0⟩

/-- The most bytes that any tensor can have, its zero dimensions left out of the count. -/
def addressLimit : Nat := Nat.pow 2 63

def memoryLimit : Nat := Nat.pow 2 50

/-- What there is for an array: so many bytes of memory, and so many dimensions at most. -/
structure Room where
  bytes : Nat := memoryLimit
  rank : Nat := 64
  deriving DecidableEq, Repr

/-- Why no array of a type and shape can be had: each of its dimensions is below the address limit,
as its bytes are when zero dimensions are left out, and it needs memory for all its bytes. -/
def shortage? (room : Room) (type : DataType) (shape : Shape) : Option Fault :=
  if room.rank < shape.length then some (.tooManyDimensions room.rank shape.length)
  else if shape.any (addressLimit ≤ ·) then some .dimensionBeyondRange
  else if addressLimit ≤ numel (shape.filter (· ≠ 0)) * type.size then some .arrayBeyondRange
  else if room.bytes ≤ byteCount type shape then
    some (.memoryExhausted (byteCount type shape) shape type.elementName)
  else none

def canAllocate (room : Room) (type : DataType) (shape : Shape) : Bool :=
  (shortage? room type shape).isNone

/-- Splits bytes into groups of a size, which is one at least; a rest that is shorter is a group
of its own. -/
def groups (size : Nat) : List UInt8 → List (List UInt8)
  | [] => []
  | b :: rest => (b :: rest.take (size - 1)) :: groups size (rest.drop (size - 1))
termination_by bytes => bytes.length
decreasing_by rw [List.length_drop, List.length_cons]; omega

def elements (t : Tensor) : List Binary := (groups t.type.size t.bytes).map t.type.decode

def ofElements (type : DataType) (shape : Shape) (elements : List Binary) : Tensor :=
  ⟨type, shape, elements.flatMap fun x => type.encode (type.fit x)⟩

def overwrite (bytes : List UInt8) (offset : Nat) (written : List UInt8) : List UInt8 :=
  bytes.take offset ++ written ++ bytes.drop (offset + written.length)

def text (t : Tensor) : Text :=
  "TensorHandle(shape=" ++ Text.bracketed (t.shape.map Text.natural) ++ ", dtype=" ++ t.type.label
    ++ ")"

/-- The first element in running text, if there is one. The digits of floating-point numbers are
those that identify the number in the 64-bit format, whatever its type. -/
def firstElement? (t : Tensor) : Option Text :=
  if numel t.shape = 0 then none
  else
    let x := t.type.decode (t.bytes.take t.type.size)
    some (match t.type with
      | .char => Text.integer (x.truncate?.getD 0)
      | _ => Decimal.plainStyle.render Binary.double (Binary.double.round x))

end Tensor

inductive Handle where
  | vacant (type : Option DataType) (shape : Option (List Int))
  | holding (tensor : Tensor)
  deriving DecidableEq, Repr

namespace Handle

def empty : Handle := .vacant none none

instance : Inhabited Handle := ⟨empty⟩

def tensor? : Handle → Option Tensor
  | .holding t => some t
  | .vacant .. => none

def isEmpty (h : Handle) : Bool := h.tensor?.isNone

def type? : Handle → Option DataType
  | .holding t => some t.type
  | .vacant type _ => type

def dimensions? : Handle → Option (List Int)
  | .holding t => some (t.shape.map Int.ofNat)
  | .vacant _ shape => shape

def numel (h : Handle) : Int := (h.dimensions?.map TensorBundle.numel).getD 0

def byteCount : Handle → Nat
  | .holding t => Tensor.byteCount t.type t.shape
  | .vacant .. => 0

def sameShape (h : Handle) (dimensions : List Int) : Bool := h.dimensions? == some dimensions

def isLike (h : Handle) (type : Option DataType) (dimensions : List Int) : Bool :=
  !h.isEmpty && h.type? == type && h.sameShape dimensions

/-- Whether the bytes of a tensor can be viewed: a zero dimension must be the only one. -/
def isViewable (shape : Shape) : Bool := shape.length = 1 || !shape.contains 0

def view (h : Handle) : Except Fault (List UInt8) :=
  match h with
  | .vacant .. => .error .emptyView
  | .holding t => if isViewable t.shape then .ok t.bytes else .error .zeroDimensionView

def place (length : Nat) (offset : Int) : Nat :=
  if offset < 0 then (offset + length).toNat else min offset.toNat length

/-- Writes bytes at an offset of a handle. There must be room for exactly so many between the
places of the offset and of the offset behind them. -/
def write (h : Handle) (offset : Int) (written : List UInt8) : Except Fault Handle :=
  match h with
  | .vacant .. => .error .emptyView
  | .holding t => do
    let old ← h.view
    let start := place old.length offset
    let stop := place old.length (offset + written.length)
    if stop - start = written.length then
      pure (.holding { t with bytes := Tensor.overwrite old start written })
    else .error .viewMismatch

def text : Handle → Text
  | .holding t => t.text
  | .vacant .. => "TensorHandle(<empty>)"

end Handle
end TensorBundle

namespace TensorBundle.Convolution

structure Stride where
  vertical : Nat
  horizontal : Nat
  deriving DecidableEq, Repr

structure Padding where
  top : Nat
  left : Nat
  bottom : Nat
  right : Nat
  deriving DecidableEq, Repr

def Padding.isCountable (p : Padding) : Bool :=
  [p.top, p.left, p.bottom, p.right].all (· < Tensor.addressLimit)

/-- The number of windows of size `kernel` along a padded axis of size `total`, each `stride`
behind the one before; there is none if that number is not positive. -/
def windowCount (total kernel stride : Nat) : Nat :=
  (Int.fdiv ((total : Int) - kernel) stride + 1).toNat

structure Geometry where
  batch : Nat
  channels : Nat
  height : Nat
  width : Nat
  filters : Nat
  kernelHeight : Nat
  kernelWidth : Nat
  stride : Stride
  padding : Padding
  deriving DecidableEq, Repr

namespace Geometry

def paddedHeight (g : Geometry) : Nat := g.padding.top + g.height + g.padding.bottom

def paddedWidth (g : Geometry) : Nat := g.padding.left + g.width + g.padding.right

def paddedShape (g : Geometry) : Shape := [g.batch, g.channels, g.paddedHeight, g.paddedWidth]

def outHeight (g : Geometry) : Nat :=
  windowCount g.paddedHeight g.kernelHeight g.stride.vertical

def outWidth (g : Geometry) : Nat :=
  windowCount g.paddedWidth g.kernelWidth g.stride.horizontal

def isTooSmall (g : Geometry) : Bool := g.outHeight = 0 || g.outWidth = 0

def outShape (g : Geometry) : Shape := [g.batch, g.filters, g.outHeight, g.outWidth]

/-- Why the arrays that a convolution works on cannot be had: the padded input and, if the filters
have a place in it, the result. -/
def shortage? (g : Geometry) (room : Tensor.Room) (type : DataType) : Option Fault :=
  if g.padding.isCountable then
    match Tensor.shortage? room type g.paddedShape with
    | some fault => some fault
    | none => if g.isTooSmall then none else Tensor.shortage? room type g.outShape
  else some .paddingBeyondRange

def inputPlace (g : Geometry) (n c i j : Nat) : Nat :=
  ((n * g.channels + c) * g.height + i) * g.width + j

def filterPlace (g : Geometry) (o c p q : Nat) : Nat :=
  ((o * g.channels + c) * g.kernelHeight + p) * g.kernelWidth + q

def padded (g : Geometry) (x : Array Binary) (n c i j : Nat) : Binary :=
  if g.padding.top ≤ i ∧ i < g.padding.top + g.height ∧ g.padding.left ≤ j ∧
      j < g.padding.left + g.width then
    x[g.inputPlace n c (i - g.padding.top) (j - g.padding.left)]?.getD (Binary.ofInt 0)
  else Binary.ofInt 0

def pairs (g : Geometry) (x filters : Array Binary) (n o h w : Nat) : List (Binary × Binary) :=
  (List.range g.channels).flatMap fun c =>
    (List.range g.kernelHeight).flatMap fun p =>
      (List.range g.kernelWidth).map fun q =>
        (g.padded x n c (h * g.stride.vertical + p) (w * g.stride.horizontal + q),
          filters[g.filterPlace o c p q]?.getD (Binary.ofInt 0))

def outElements (g : Geometry) (f : Nat → Nat → Nat → Nat → Binary) : List Binary :=
  (List.range g.batch).flatMap fun n =>
    (List.range g.filters).flatMap fun o =>
      (List.range g.outHeight).flatMap fun h =>
        (List.range g.outWidth).map fun w => f n o h w

end Geometry

/-- The exact sum of products of the type `product`; the caller rounds it, once. A library that adds
in the numbers of a format may round at each step: the two agree where all partial sums are numbers
of the format, as the integers below its precision are, and may differ elsewhere. -/
def dot (product : DataType) (pairs : List (Binary × Binary)) : Binary :=
  pairs.foldl (fun sum (a, b) => sum.add (product.mul a b)) (Binary.ofInt 0)

/-- Convolves `x` with filters, of which each may have a bias. Products are in the wider of the
two types, the sum is brought into the type of `x`, and so is the bias, which is added in that
type. There is no result if a filter has no place in the padded input. -/
def convolve (g : Geometry) (x filters : Tensor) (bias : Option Tensor) : Option Tensor :=
  if g.isTooSmall then none
  else
    let inputs := x.elements.toArray
    let weights := filters.elements.toArray
    let offsets := bias.map fun b => b.elements.toArray
    let product := x.type.join filters.type
    some (Tensor.ofElements x.type g.outShape (g.outElements fun n o h w =>
      let sum := x.type.fit (dot product (g.pairs inputs weights n o h w))
      match offsets with
      | none => sum
      | some b => x.type.add sum (x.type.fit (b[o]?.getD (Binary.ofInt 0)))))

end TensorBundle.Convolution
