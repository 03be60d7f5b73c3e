import TensorBundle.Binary
import TensorBundle.Image.Raster
/-!
Images as PNG: the chunks of a file, the stream of compressed bytes that they hold, and the rows of
pixels behind it.
-/
namespace TensorBundle.Deflate

inductive Ending where
  | complete
  | starved
  | broken
  deriving DecidableEq, Repr

structure Decoded where
  bytes : List UInt8
  ending : Ending
  deriving DecidableEq, Repr

abbrev Bits := List Bool

def bitsOf (bytes : List UInt8) : Bits :=
  bytes.flatMap fun b => (List.range 8).map fun i => b.toNat.testBit i

abbrev Reading := StateT Bits (Except Ending)

def bit : Reading Bool := fun
  | [] => .error .starved
  | b :: rest => .ok (b, rest)

def number : (width : Nat) → Reading Nat
  | 0 => pure 0
  | width + 1 => do
    let low ← bit
    let high ← number width
    pure (low.toNat + 2 * high)

def alignToByte : Reading Unit := modify fun bits => bits.drop (bits.length % 8)

def broken {α : Type} : Reading α := throw .broken

inductive PrefixCode where
  | unused
  | symbol (value : Nat)
  | branch (zero one : PrefixCode)
  deriving Repr

namespace PrefixCode

def insert (value : Nat) : List Bool → PrefixCode → PrefixCode
  | [], _ => .symbol value
  | bit :: word, code =>
    let (zero, one) := match code with
      | .branch zero one => (zero, one)
      | _ => (.unused, .unused)
    if bit then .branch zero (one.insert value word) else .branch (zero.insert value word) one

def read : PrefixCode → Reading Nat
  | .symbol value => pure value
  | .unused => broken
  | .branch zero one => do
    if ← bit then one.read else zero.read

def longest : Nat := 15

def word (width n : Nat) : List Bool := ((List.range width).map n.testBit).reverse

def share (lengths : List Nat) : Nat :=
  lengths.foldr (fun n total => (if n = 0 then 0 else Nat.pow 2 (longest - n)) + total) 0

/-- Gives code words to symbols by the lengths of the words, shortest first: each word begins where
the words before it end. -/
def assign (start : Nat) (code : PrefixCode) : List (Nat × Nat) → PrefixCode
  | [] => code
  | (length, value) :: rest =>
    assign (start + Nat.pow 2 (longest - length))
      (code.insert value (word length (start / Nat.pow 2 (longest - length)))) rest

def ofLengths (lengths : List Nat) : PrefixCode :=
  let used := lengths.zipIdx.filter fun entry => entry.1 ≠ 0
  assign 0 .unused (used.mergeSort fun a b => decide (a.1 ≤ b.1))

/-- The code of transmitted lengths, whose words must take all bit strings. No word at all will do
too, and so will, where it is allowed, a single word of one bit. -/
def transmitted (mayBeSparse : Bool) (lengths : List Nat) : Reading PrefixCode :=
  let isSparse := mayBeSparse && share lengths = Nat.pow 2 (longest - 1) && lengths.all (· ≤ 1)
  if share lengths = Nat.pow 2 longest || isSparse || lengths.all (· == 0) then
    pure (ofLengths lengths)
  else broken

end PrefixCode

/-- The base value and the further bits of each length symbol, counted from 257. -/
def lengthTable : List (Nat × Nat) := [
  (3, 0), (4, 0), (5, 0), (6, 0), (7, 0), (8, 0), (9, 0), (10, 0), (11, 1), (13, 1), (15, 1),
  (17, 1), (19, 2), (23, 2), (27, 2), (31, 2), (35, 3), (43, 3), (51, 3), (59, 3), (67, 4), (83, 4),
  (99, 4), (115, 4), (131, 5), (163, 5), (195, 5), (227, 5), (258, 0)]

def distanceTable : List (Nat × Nat) := [
  (1, 0), (2, 0), (3, 0), (4, 0), (5, 1), (7, 1), (9, 2), (13, 2), (17, 3), (25, 3), (33, 4),
  (49, 4), (65, 5), (97, 5), (129, 6), (193, 6), (257, 7), (385, 7), (513, 8), (769, 8), (1025, 9),
  (1537, 9), (2049, 10), (3073, 10), (4097, 11), (6145, 11), (8193, 12), (12289, 12), (16385, 13),
  (24577, 13)]

def tableValue (table : List (Nat × Nat)) (symbol : Nat) : Reading Nat :=
  match table[symbol]? with
  | none => broken
  | some (base, width) => do
    let further ← number width
    pure (base + further)

structure Codes where
  literals : PrefixCode
  distances : PrefixCode

def fixedCodes : Codes where
  literals := .ofLengths
    (List.replicate 144 8 ++ List.replicate 112 9 ++ List.replicate 24 7 ++ List.replicate 8 8)
  distances := .ofLengths (List.replicate 32 5)

def lengthOrder : List Nat := [16, 17, 18, 0, 8, 7, 9, 6, 10, 5, 11, 4, 12, 3, 13, 2, 14, 1, 15]

def shortNumbers (count : Nat) : Reading (List Nat) := (List.replicate count 3).mapM number

/-- Reads code lengths until there are `count` of them; `done` is in reverse. Each symbol adds a
length at least, so that `count` steps suffice. -/
def codeLengths (code : PrefixCode) (count : Nat) : (steps : Nat) → List Nat → Reading (List Nat)
  | 0, done => if done.length = count then pure done.reverse else broken
  | steps + 1, done => do
    if done.length = count then pure done.reverse
    else if count < done.length then broken
    else
      let symbol ← code.read
      if symbol < 16 then codeLengths code count steps (symbol :: done)
      -- 16 repeats the last length, 17 and 18 repeat zero.
      else if symbol = 16 then
        match done.head? with
        | none => broken
        | some last =>
          let further ← number 2
          codeLengths code count steps (List.replicate (3 + further) last ++ done)
      else
        let further ← if symbol = 17 then number 3 else (8 + ·) <$> number 7
        codeLengths code count steps (List.replicate (3 + further) 0 ++ done)

def transmittedCodes : Reading Codes := do
  let literals := 257 + (← number 5)
  let distances := 1 + (← number 5)
  let sent := 4 + (← number 4)
  if 286 < literals ∨ 30 < distances then broken
  else
    let table := lengthOrder.zip (← shortNumbers sent)
    let code ← PrefixCode.transmitted false
      ((List.range 19).map fun symbol => (table.lookup symbol).getD 0)
    let lengths ← codeLengths code (literals + distances) (literals + distances) []
    -- Without a word for the end a block would have none.
    if lengths[256]? = some 0 then broken
    else
      let literalCode ← PrefixCode.transmitted true (lengths.take literals)
      let distanceCode ← PrefixCode.transmitted true (lengths.drop literals)
      pure ⟨literalCode, distanceCode⟩

/-- Where decoding stands: in front of a block, in a stored block with one byte and `more` to
come, or in a block with the given codes. The last block of a stream is marked. -/
inductive Stage where
  | header
  | stored (more : Nat) (last : Bool)
  | coded (codes : Codes) (last : Bool)

def afterBlock (last : Bool) : Option Stage := if last then none else some .header

def header : Reading (Option Stage) := do
  let last ← bit
  match ← number 2 with
  | 0 =>
    alignToByte
    let size ← number 16
    let check ← number 16
    if size + check ≠ 65535 then broken
    else match size with
      | 0 => pure (afterBlock last)
      | more + 1 => pure (some (.stored more last))
  | 1 => pure (some (.coded fixedCodes last))
  | 2 => do
    let codes ← transmittedCodes
    pure (some (.coded codes last))
  | _ => broken

/-- Repeats what was decoded `distance` bytes ago, byte by byte; `done` is in reverse. -/
def copyBack (distance : Nat) : (count : Nat) → List UInt8 → Option (List UInt8)
  | 0, done => some done
  | count + 1, done => match done[distance - 1]? with
    | none => none
    | some b => copyBack distance count (b :: done)

def repetition (codes : Codes) (symbol : Nat) (done : List UInt8) : Reading (List UInt8) := do
  let length ← tableValue lengthTable (symbol - 257)
  let distance ← tableValue distanceTable (← codes.distances.read)
  match copyBack distance length done with
  | some done => pure done
  | none => broken

/-- A step: the head of a block, or a byte or a symbol in it. It gives the bytes so far, in reverse,
and where decoding stands then. -/
def step (stage : Stage) (done : List UInt8) : Reading (List UInt8 × Option Stage) :=
  match stage with
  | .header => do
    let next ← header
    pure (done, next)
  | .stored more last => do
    let b ← number 8
    let next := match more with
      | 0 => afterBlock last
      | more + 1 => some (.stored more last)
    pure (UInt8.ofNat b :: done, next)
  | .coded codes last => do
    let symbol ← codes.literals.read
    if symbol < 256 then pure (UInt8.ofNat symbol :: done, some stage)
    else if symbol = 256 then pure (done, afterBlock last)
    else
      let done ← repetition codes symbol done
      pure (done, some stage)

/-- Takes steps until the stream ends. A step reads a bit at least, and so the bits of the stream
bound the steps. The bits behind the stream are left. -/
def run : (steps : Nat) → Stage → List UInt8 → Bits → Decoded × Bits
  | 0, _, done, bits => (⟨done.reverse, .starved⟩, bits)
  | steps + 1, stage, done, bits => match step stage done bits with
    | .error ending => (⟨done.reverse, ending⟩, bits)
    | .ok ((done, none), rest) => (⟨done.reverse, .complete⟩, rest)
    | .ok ((done, some next), rest) => run steps next done rest

def checkSum (bytes : List UInt8) : Nat :=
  let (a, b) := bytes.foldl
    (fun (a, b) x => ((a + x.toNat) % 65521, (b + a + x.toNat) % 65521)) (1, 0)
  b * 65536 + a

def isHead (method flags : UInt8) : Bool :=
  (method.toNat * 256 + flags.toNat) % 31 = 0 && method.toNat % 16 = 8 && method.toNat / 16 ≤ 7 &&
    !flags.toNat.testBit 5

def decode : List UInt8 → Decoded
  | [] | [_] => ⟨[], .starved⟩
  | method :: flags :: body =>
    if !isHead method flags then ⟨[], .broken⟩
    else
      let bits := bitsOf body
      let (decoded, rest) := run (bits.length + 1) .header [] bits
      if decoded.ending ≠ .complete then decoded
      else
        -- The check sum starts at the next whole byte.
        let sum := (body.drop (body.length - rest.length / 8)).take 4
        let ending : Ending :=
          if sum.length < 4 then .starved
          else if Bytes.bigEndian sum = checkSum decoded.bytes then .complete
          else .broken
        ⟨decoded.bytes, ending⟩

end TensorBundle.Deflate

namespace TensorBundle.Image.Png

def signature : List UInt8 := [0x89, 0x50, 0x4E, 0x47, 0x0D, 0x0A, 0x1A, 0x0A]

def isPng (bytes : List UInt8) : Bool := signature.isPrefixOf bytes

def crcBit (sum : UInt32) : UInt32 := if sum % 2 = 1 then (sum >>> 1) ^^^ 0xEDB88320 else sum >>> 1

def crc (bytes : List UInt8) : Nat :=
  let sum := bytes.foldl (fun sum b => Nat.repeat crcBit 8 (sum ^^^ b.toUInt32)) 0xFFFFFFFF
  (sum ^^^ 0xFFFFFFFF).toNat

inductive Tag where
  | header
  | palette
  | data
  | final
  | other
  deriving DecidableEq, Repr

def Tag.ofName (name : List UInt8) : Tag :=
  if name = [0x49, 0x48, 0x44, 0x52] then .header
  else if name = [0x50, 0x4C, 0x54, 0x45] then .palette
  else if name = [0x49, 0x44, 0x41, 0x54] then .data
  else if name = [0x49, 0x45, 0x4E, 0x44] then .final
  else .other

def isNameByte (b : UInt8) : Bool :=
  (0x30 ≤ b && b ≤ 0x39) || (0x41 ≤ b && b ≤ 0x5A) || b = 0x5F || (0x61 ≤ b && b ≤ 0x7A)

structure ChunkHead where
  name : List UInt8
  size : Nat

def chunkHead? (bytes : List UInt8) : Option (ChunkHead × List UInt8) :=
  let name := (bytes.drop 4).take 4
  if name.length = 4 && name.all isNameByte then
    some (⟨name, Bytes.bigEndian (bytes.take 4)⟩, bytes.drop 8)
  else none

inductive ColorKind where
  | gray
  | rgb
  | indexed
  | grayAlpha
  | rgbAlpha
  deriving DecidableEq, Repr

def ColorKind.channels : ColorKind → Nat
  | .gray | .indexed => 1
  | .grayAlpha => 2
  | .rgb => 3
  | .rgbAlpha => 4

def colorKind? (depth number : Nat) : Option ColorKind :=
  match number with
  | 0 => if [1, 2, 4, 8].contains depth then some .gray else none
  | 2 => if depth = 8 then some .rgb else none
  | 3 => if [1, 2, 4, 8].contains depth then some .indexed else none
  | 4 => if depth = 8 then some .grayAlpha else none
  | 6 => if depth = 8 then some .rgbAlpha else none
  | _ => none

structure Header where
  width : Nat
  height : Nat
  depth : Nat
  color : Option ColorKind
  interlaced : Bool

structure Preamble where
  header : Option Header := none
  palette : List UInt8 := []

def Header.ofBytes (bytes : List UInt8) : Except (Refusal Problem) Header :=
  let byte (i : Nat) := ((bytes[i]?).getD 0).toNat
  if bytes.length < 13 then .error (.fault .imageHeaderCut)
  else if byte 11 ≠ 0 then refuse .unidentified
  else .ok ⟨Bytes.bigEndian (bytes.take 4), Bytes.bigEndian ((bytes.drop 4).take 4), byte 8,
    colorKind? (byte 8) (byte 9), byte 12 ≠ 0⟩

def Preamble.add (p : Preamble) (tag : Tag) (bytes : List UInt8) :
    Except (Refusal Problem) Preamble :=
  match tag with
  | .header => do pure { p with header := some (← Header.ofBytes bytes) }
  | .palette => .ok { p with palette := bytes }
  | _ => .ok p

/-- Reads the chunks in front of the data, and gives the bytes from the first data chunk on; there
are none if the end comes first. Every chunk in front of the data must have its check sum. -/
def preamble : (fuel : Nat) → Preamble → List UInt8 →
    Except (Refusal Problem) (Preamble × List UInt8)
  | 0, _, _ => refuse .unidentified
  | fuel + 1, known, bytes => match chunkHead? bytes with
    | none => refuse .unidentified
    | some (head, rest) =>
      match Tag.ofName head.name with
      | .data => .ok (known, bytes)
      | .final => .ok (known, [])
      | tag =>
        if rest.length < head.size then refuse .headerCut
        else do
          let known ← known.add tag (rest.take head.size)
          let sum := (rest.drop head.size).take 4
          if sum.length = 4 && Bytes.bigEndian sum = crc (head.name ++ rest.take head.size) then
            preamble fuel known (rest.drop (head.size + 4))
          else refuse .unidentified

/-- What follows the data chunks: another chunk, no further size of one, or a size without a name
that chunks can have. -/
inductive Sequel where
  | chunk
  | nothing
  | nameless (name : List UInt8)

def dataChunks : (fuel : Nat) → List UInt8 → List UInt8 × Sequel
  | 0, _ => ([], .nothing)
  | fuel + 1, bytes => match chunkHead? bytes with
    | none => ([], if bytes.length < 4 then .nothing else .nameless ((bytes.drop 4).take 4))
    | some (head, rest) =>
      if Tag.ofName head.name = .data then
        let (others, sequel) := dataChunks fuel (rest.drop (head.size + 4))
        (rest.take head.size ++ others, sequel)
      else ([], .chunk)

inductive Filter where
  | plain
  | sub
  | up
  | average
  | paeth
  deriving DecidableEq, Repr

def Filter.ofByte? (b : UInt8) : Option Filter :=
  [Filter.plain, .sub, .up, .average, .paeth][b.toNat]?

/-- Of three bytes the one nearest to left plus above minus corner; of equally near ones the first
in this order. -/
def nearest (left above corner : Nat) : Nat :=
  let estimate : Int := left + above - corner
  let far (n : Nat) : Nat := (estimate - n).natAbs
  if far left ≤ far above ∧ far left ≤ far corner then left
  else if far above ≤ far corner then above
  else corner

def Filter.expected (f : Filter) (left above corner : UInt8) : UInt8 :=
  match f with
  | .plain => 0
  | .sub => left
  | .up => above
  | .average => UInt8.ofNat ((left.toNat + above.toNat) / 2)
  | .paeth => UInt8.ofNat (nearest left.toNat above.toNat corner.toNat)

/-- Decodes a row. The first byte of `left` is the one a pixel to the left, that of `above` the
one in the row above, and that of `corner` the one a pixel to the left of it. -/
def Filter.decode (f : Filter) (left corner : List UInt8) : (above row : List UInt8) → List UInt8
  | _, [] => []
  | above, x :: row =>
    let b := above.headD 0
    let y := x + f.expected (left.headD 0) b (corner.headD 0)
    y :: f.decode (left.tail ++ [y]) (corner.tail ++ [b]) above.tail row

/-- Decodes rows of `size` bytes with a byte for the filter in front. Missing rows are a problem
unless the data ended as they should. -/
def decodeRows (size pixelSize : Nat) (ending : Except (Refusal Problem) Unit) :
    (count : Nat) → (above : List UInt8) → List UInt8 → Except (Refusal Problem) (List (List UInt8))
  | 0, _, _ => .ok []
  | count + 1, above, data =>
    if data.length ≤ size then do
      ending
      pure []
    else match Filter.ofByte? (data.headD 0) with
      | none => refuse .unknownEncoding
      | some f => do
        let blank := List.replicate pixelSize 0
        let row := f.decode blank blank above ((data.drop 1).take size)
        let rows ← decodeRows size pixelSize ending count row (data.drop (size + 1))
        pure (row :: rows)

def samplesOfByte (depth : Nat) (b : UInt8) : List Nat :=
  (List.range (8 / depth)).map fun i => b.toNat / Nat.pow 2 (8 - depth * (i + 1)) % Nat.pow 2 depth

def spread (depth sample : Nat) : UInt8 := UInt8.ofNat (sample * (255 / (Nat.pow 2 depth - 1)))

def paletteColor (palette : List UInt8) (index : Nat) : Pixel :=
  match palette.drop (3 * index) with
  | r :: g :: b :: _ => ⟨r, g, b⟩
  | _ => .black

def pixels (color : ColorKind) (depth : Nat) (palette : List UInt8) : List Nat → List Pixel
  | s :: rest => match color with
    | .gray => .gray (spread depth s) :: pixels color depth palette rest
    | .indexed => paletteColor palette s :: pixels color depth palette rest
    | .grayAlpha => match rest with
      | _ :: rest => .gray (spread depth s) :: pixels color depth palette rest
      | [] => []
    | .rgb => match rest with
      | g :: b :: rest =>
        ⟨UInt8.ofNat s, UInt8.ofNat g, UInt8.ofNat b⟩ :: pixels color depth palette rest
      | _ => []
    | .rgbAlpha => match rest with
      | g :: b :: _ :: rest =>
        ⟨UInt8.ofNat s, UInt8.ofNat g, UInt8.ofNat b⟩ :: pixels color depth palette rest
      | _ => []
  | [] => []

def namelessFault (name : List UInt8) : Fault :=
  .foreign "SyntaxError" ("broken PNG file (chunk " ++ Text.quotedBytes name ++ ")")

def shortData (ending : Deflate.Ending) (sequel : Sequel) : Except (Refusal Problem) Unit :=
  match ending, sequel with
  | .complete, _ => .ok ()
  | .starved, .chunk => refuse (.dataCut 0)
  | .starved, .nothing => refuse .fileCut
  | .starved, .nameless name => .error (.fault (namelessFault name))
  | .broken, _ => refuse .brokenData

def decode (bytes : List UInt8) : Except (Refusal Problem) Image := do
  let (known, chunks) ← preamble (bytes.length + 1) {} (bytes.drop 8)
  match known.header with
  | some { width, height, depth, color := some color, interlaced := false } =>
    checkSize width height
    if chunks.isEmpty then refuse .withoutData
    else
      let (stream, sequel) := dataChunks (chunks.length + 1) chunks
      let decoded := Deflate.decode stream
      let bits := color.channels * depth
      -- Rows end on whole bytes, and a filter looks back one byte at least.
      let size := (width * bits + 7) / 8
      let rows ← decodeRows size ((bits + 7) / 8) (shortData decoded.ending sequel) height []
        decoded.bytes
      pure (.ofRows width height
        (rows.map fun row => pixels color depth known.palette (row.flatMap (samplesOfByte depth))))
  | _ => refuse .unidentified

end TensorBundle.Image.Png
