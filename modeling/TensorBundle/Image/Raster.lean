import TensorBundle.Binary
import TensorBundle.Setting
import TensorBundle.Text
/-!
Images that are rows of pixels behind a header: bitmaps of 24 bits a pixel, and portable pixmaps,
graymaps and bitmaps in binary form.
-/
namespace TensorBundle.Image

inductive Problem where
  | unopened (error : OpenError)
  | unidentified
  | headerCut
  | withoutData
  /-- The data stop before the last row; so many bytes of a started row are left. -/
  | dataCut (left : Nat)
  | fileCut
  | brokenData
  | unknownEncoding
  | tooManyPixels (count : Nat)
  deriving DecidableEq, Repr

def pixelLimit : Nat := 178956970

def Problem.reason (path : Text) : Problem → Text
  | .unopened error =>
    "[Errno " ++ Text.natural error.number ++ "] " ++ error.reason ++ ": " ++ path.quoted
  | .unidentified => "cannot identify image file " ++ path.quoted
  | .headerCut => "Truncated File Read"
  | .withoutData => "cannot load this image"
  | .dataCut left => "image file is truncated (" ++ Text.natural left ++ " bytes not processed)"
  | .fileCut => "image file is truncated"
  | .brokenData => "broken data stream when reading image file"
  | .unknownEncoding => "unrecognized data stream contents when reading image file"
  | .tooManyPixels count =>
    "Image size (" ++ Text.natural count ++ " pixels) exceeds limit of " ++ Text.natural pixelLimit
      ++ " pixels, could be decompression bomb DOS attack."

def refuse {α : Type} (p : Problem) : Except (Refusal Problem) α := .error (.problem p)

def checkSize (width height : Nat) : Except (Refusal Problem) Unit :=
  if width = 0 ∨ height = 0 then refuse .unidentified
  else if pixelLimit < width * height then refuse (.tooManyPixels (width * height))
  else .ok ()

/-- Cuts rows of `size` bytes out of data; `gap` bytes lie between a row and the next. Short data
are a problem: the bytes of a row that has started are left over. -/
def cutRows (size gap : Nat) : (count : Nat) → List UInt8 →
    Except (Refusal Problem) (List (List UInt8))
  | 0, _ => .ok []
  | 1, data => if data.length < size then refuse (.dataCut data.length) else .ok [data.take size]
  | count + 2, data => do
    if data.length < size then refuse (.dataCut data.length)
    else
      let behind := data.drop size
      if behind.length < gap then refuse (.dataCut behind.length)
      else
        let rows ← cutRows size gap (count + 1) (behind.drop gap)
        pure (data.take size :: rows)

end TensorBundle.Image

namespace TensorBundle.Image.Bitmap

def field (bytes : List UInt8) (offset size : Nat) : Nat :=
  Bytes.littleEndian ((bytes.drop offset).take size)

structure Header where
  width : Nat
  height : Nat
  topDown : Bool
  bits : Nat
  compression : Nat

def longSizes : List Nat := [40, 52, 56, 64, 108, 124]

def header? (size : Nat) (body : List UInt8) : Option Header :=
  if size = 12 then some ⟨field body 0 2, field body 2 2, false, field body 6 2, 0⟩
  else if longSizes.contains size then
    let topDown := field body 7 1 = 0xFF
    let height := if topDown then Nat.pow 2 32 - field body 4 4 else field body 4 4
    some ⟨field body 0 4, height, topDown, field body 10 2, field body 12 4⟩
  else none

def rowSize (width : Nat) : Nat := 3 * width

def rowGap (width : Nat) : Nat := (4 - rowSize width % 4) % 4

def pixels : List UInt8 → List Pixel
  | b :: g :: r :: rest => ⟨r, g, b⟩ :: pixels rest
  | _ => []

def isBitmap (bytes : List UInt8) : Bool := bytes.take 2 = [0x42, 0x4D]

def decode (bytes : List UInt8) : Except (Refusal Problem) Image := do
  if bytes.length < 18 then refuse .unidentified
  else
    let size := field bytes 14 4
    if bytes.length < 14 + size then refuse .headerCut
    else match header? size ((bytes.drop 18).take (size - 4)) with
      | none => refuse .unidentified
      | some header =>
        if header.bits ≠ 24 ∨ header.compression ≠ 0 then refuse .unidentified
        else
          checkSize header.width header.height
          let offset := field bytes 10 4
          let data := bytes.drop (if offset = 0 then 14 + size else offset)
          let rows ← cutRows (rowSize header.width) (rowGap header.width) header.height data
          let rows := if header.topDown then rows else rows.reverse
          pure (.ofRows header.width header.height (rows.map pixels))

end TensorBundle.Image.Bitmap

namespace TensorBundle.Image.Netpbm

inductive Kind where
  | bitmap
  | graymap
  | pixmap
  deriving DecidableEq, Repr

def isBlank (b : UInt8) : Bool := b = 0x20 || (0x09 ≤ b && b ≤ 0x0D)

def isLineEnd (b : UInt8) : Bool := b = 0x0A || b = 0x0D

/-- Where reading stands in a header: among the bytes of a token, or in a comment, which may also
interrupt a token. -/
inductive Place where
  | token
  | comment

def tokenLimit : Nat := 10

def token (place : Place) (done : List UInt8) : List UInt8 → Except Fault (List UInt8 × List UInt8)
  | [] => if done = [] then .error .headerEnded else .ok (done.reverse, [])
  | b :: rest => match place with
    | .comment => token (if isLineEnd b then .token else .comment) done rest
    | .token =>
      if isBlank b then if done = [] then token .token [] rest else .ok (done.reverse, rest)
      else if b = 0x23 then token .comment done rest
      else if tokenLimit ≤ done.length then .error (.headerToken (b :: done).reverse)
      else token .token (b :: done) rest

def number (bytes : List UInt8) : Except Fault (Int × List UInt8) := do
  let (digits, rest) ← token .token [] bytes
  let written : Text := digits.map fun b => Code.ofNat b.toNat
  match (if digits.all (· < 0x80) then written.toInteger.toOption else none) with
  | some n => pure (n, rest)
  | none => .error (.headerNumber digits)

def Kind.ofByte? (b : UInt8) : Option Kind :=
  if b = 0x34 then some .bitmap
  else if b = 0x35 then some .graymap
  else if b = 0x36 then some .pixmap
  else none

def kind? : List UInt8 → Option (Kind × List UInt8)
  | p :: k :: rest =>
    if p = 0x50 then
      match rest with
      | [] => (Kind.ofByte? k).map (·, [])
      | b :: rest => if isBlank b then (Kind.ofByte? k).map (·, rest) else none
    else none
  | _ => none

def Kind.rowSize (kind : Kind) (width : Nat) : Nat :=
  match kind with
  | .bitmap => (width + 7) / 8
  | .graymap => width
  | .pixmap => 3 * width

def triples : List UInt8 → List Pixel
  | r :: g :: b :: rest => ⟨r, g, b⟩ :: triples rest
  | _ => []

/-- The pixels of a row. In a bitmap the most significant bit of a byte is the leftmost pixel, and
a set bit is black. -/
def Kind.pixels (kind : Kind) (row : List UInt8) : List Pixel :=
  match kind with
  | .bitmap => row.flatMap fun b =>
    (List.range 8).map fun i => if b.toNat.testBit (7 - i) then Pixel.black else .gray 255
  | .graymap => row.map .gray
  | .pixmap => triples row

def maximumLimit : Int := 65535

def checkMaximum (kind : Kind) (bytes : List UInt8) : Except (Refusal Problem) (List UInt8) :=
  match kind with
  | .bitmap => .ok bytes
  | _ => do
    let (maximum, rest) ← (number bytes).mapError Refusal.fault
    if maximum ≤ 0 ∨ maximumLimit < maximum then .error (.fault .headerMaximum)
    else if maximum ≠ 255 then refuse .unidentified
    else pure rest

def decode (kind : Kind) (bytes : List UInt8) : Except (Refusal Problem) Image := do
  let (width, rest) ← (number bytes).mapError Refusal.fault
  let (height, rest) ← (number rest).mapError Refusal.fault
  let data ← checkMaximum kind rest
  checkSize width.toNat height.toNat
  let rows ← cutRows (kind.rowSize width.toNat) 0 height.toNat data
  pure (.ofRows width.toNat height.toNat (rows.map kind.pixels))

end TensorBundle.Image.Netpbm
