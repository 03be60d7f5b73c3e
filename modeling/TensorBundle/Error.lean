import TensorBundle.Binary
import TensorBundle.Json.Literal
import TensorBundle.Json.Reader
import TensorBundle.Text
/-!
Errors of a bundle: what went wrong, what to try, and the values concerned. A run reports an error
as a status of the kind that belongs to it. Faults are misuse and limits that are no errors of a
bundle; a run does not turn them into a status, they go up to the caller.
-/
namespace TensorBundle

inductive StatusCode where
  | ok
  | invalidArgument
  | notFound
  | outOfMemory
  | notImplemented
  | internalError
  deriving DecidableEq, Repr

namespace StatusCode

def name : StatusCode → Text
  | .ok => "Ok"
  | .invalidArgument => "InvalidArgument"
  | .notFound => "NotFound"
  | .outOfMemory => "OutOfMemory"
  | .notImplemented => "NotImplemented"
  | .internalError => "InternalError"

def ofName? (t : Text) : Option StatusCode :=
  [ok, invalidArgument, notFound, outOfMemory, notImplemented, internalError].find? (·.name == t)

end StatusCode

structure Status where
  code : StatusCode := .ok
  message : Text := []
  index : Option Int := none
  type : Option Text := none
  deriving DecidableEq, Repr

namespace Status

def success : Status := {}

def error (code : StatusCode) (message : Text) : Status := { code, message }

def isOk (s : Status) : Bool := s.code == .ok

def atOperation (s : Status) (index : Int) (type : Text) : Status :=
  { s with index := some index, type := some type }

def text (s : Status) : Text :=
  if s.isOk then "Ok"
  else
    let place : Text := match s.index with
      | none => []
      | some index => " at operation " ++ Text.integer index ++ " (" ++ s.type.getD "None" ++ ")"
    s.code.name ++ place ++ ": " ++ s.message

end Status

inductive Fault where
  -- Names and documents.
  | indexOutOfRange
  | unknownName (name : Text)
  | malformedDocument (text : Text) (problem : Json.Problem) (offset : Nat)
  | tooManyDigits (count : Nat)
  /-- An integer of too many digits in a text that an error was to have. -/
  | unwritableInteger
  | integerBeyondFloat
  | quotientBeyondFloat
  | infinityAsInteger
  | nanAsInteger
  | notIterable (document : Json)
  | notIntegral (document : Json)
  | malformedInteger (text : Text)
  | missingDimensions
  -- Handles and arrays.
  | emptyView
  | emptyContents
  | zeroDimensionView
  | viewMismatch
  | raggedArray (dimensions : List Nat)
  | tooManyDimensions (limit count : Nat)
  | dimensionBeyondRange
  | arrayBeyondRange
  | memoryExhausted (bytes : Nat) (dimensions : List Nat) (elementName : Text)
  | paddingBeyondRange
  -- Paths.
  | embeddedNul
  | unencodablePath (code : Code) (first last : Nat)
  -- Headers of images.
  | headerEnded
  | headerToken (bytes : List UInt8)
  | headerNumber (bytes : List UInt8)
  | headerMaximum
  | imageHeaderCut
  -- What is not part of this library: handlers of a caller, and decoders of images.
  | foreign (kind message : Text)

namespace Fault

def kindWord : Json → Text
  | .null => "NoneType"
  | .bool _ => "bool"
  | .int _ => "int"
  | .real _ => "float"
  | .text _ => "str"
  | .array _ => "list"
  | .object _ => "dict"

/-- Dimensions as a tuple: a single one is followed by a comma. -/
def tuple (dimensions : List Text) : Text :=
  match dimensions with
  | [d] => "(" ++ d ++ ",)"
  | ds => "(" ++ Text.join ", " ds ++ ")"

def message : Fault → Text
  | .indexOutOfRange => "list index out of range"
  | .unknownName name => name.quoted
  | .malformedDocument text problem offset => Json.located text problem offset
  | .tooManyDigits count =>
    "Exceeds the limit (4300 digits) for integer string conversion: value has "
      ++ Text.natural count ++ " digits; use sys.set_int_max_str_digits() to increase the limit"
  | .unwritableInteger =>
    "Exceeds the limit (4300 digits) for integer string conversion; "
      ++ "use sys.set_int_max_str_digits() to increase the limit"
  | .integerBeyondFloat => "int too large to convert to float"
  | .quotientBeyondFloat => "integer division result too large for a float"
  | .infinityAsInteger => "cannot convert float infinity to integer"
  | .nanAsInteger => "cannot convert float NaN to integer"
  | .notIterable document => "'" ++ kindWord document ++ "' object is not iterable"
  | .notIntegral document =>
    "int() argument must be a string, a bytes-like object or a real number, not '"
      ++ kindWord document ++ "'"
  | .malformedInteger text =>
    "invalid literal for int() with base 10: " ++ text.quoted.take 200
  | .missingDimensions => "'NoneType' object is not iterable"
  | .emptyView => "Cannot take a byte view of an empty tensor handle"
  | .emptyContents => "Empty tensor handle has no data"
  | .zeroDimensionView => "memoryview: cannot cast view with zeros in shape or strides"
  | .viewMismatch =>
    "memoryview assignment: lvalue and rvalue have different structures"
  | .raggedArray dimensions =>
    "setting an array element with a sequence. "
      ++ "The requested array has an inhomogeneous shape after "
      ++ Text.natural dimensions.length ++ " dimensions. The detected shape was "
      ++ tuple (dimensions.map Text.natural) ++ " + inhomogeneous part."
  | .tooManyDimensions limit count =>
    "maximum supported dimension for an ndarray is currently " ++ Text.natural limit ++ ", found "
      ++ Text.natural count
  | .dimensionBeyondRange => "Maximum allowed dimension exceeded"
  | .arrayBeyondRange =>
    "array is too big; `arr.size * arr.dtype.itemsize` is larger than the maximum possible size."
  | .memoryExhausted bytes dimensions elementName =>
    "Unable to allocate " ++ Decimal.size bytes ++ " for an array with shape "
      ++ tuple (dimensions.map Text.natural) ++ " and data type " ++ elementName
  | .paddingBeyondRange => "`pad_width` must be of integral type."
  | .embeddedNul => "embedded null byte"
  | .unencodablePath code first last =>
    let place : Text :=
      if first = last then
        "character '\\u" ++ Text.hex 4 code.val ++ "' in position " ++ Text.natural first
      else "characters in position " ++ Text.natural first ++ "-" ++ Text.natural last
    "'utf-8' codec can't encode " ++ place ++ ": surrogates not allowed"
  | .headerEnded => "Reached EOF while reading header"
  | .headerToken bytes => "Token too long in file header: " ++ Text.quotedBytes bytes
  | .headerNumber bytes => "invalid literal for int() with base 10: " ++ Text.quotedBytes bytes
  | .headerMaximum => "maxval must be greater than 0 and less than 65536"
  | .imageHeaderCut => "Truncated IHDR chunk"
  | .foreign _ message => message

def ofJson (text : Text) : Json.Fault → Fault
  | .malformed problem offset => .malformedDocument text problem offset
  | .tooManyDigits count => .tooManyDigits count

end Fault

inductive ConfigurationProblem where
  | notAnObject
  | typeNotText
  | namesNotTexts (key : Text)
  | fieldMissing (key : Text)
  | fieldNotText (key : Text)
  | fieldNotInteger (key : Text)
  | fieldNotIntegers (key : Text)
  | fieldNotNumbers (key : Text)
  | negativeDimension (key : Text)
  | unknownDataType (key : Text)
  | tooFewInputs (needed count : Int)
  | tooFewOutputs (needed count : Int)
  | inputMissing (name : Text)
  | notAPair (key : Text)
  | notAPadding
  | strideOrPad
  | notUtf8 (reason : Text) (offset : Nat)
  | notJson (reason : Text) (line : Nat)
  | operationsMissing
  | stated (text : Text)

inductive ValidationProblem where
  | typeOrShapeMissing
  | negativeDimension
  | unsupportedElements
  | inputRank
  | filterChannels
  | biasSize
  | filtersTooLarge
  | averageSize
  | stated (text : Text)

inductive ResourceProblem where
  | manifestUnreadable (reason : Text)
  | tensorUnreadable (reason : Text)
  | tensorTooShort (name : Text)
  | imageUnreadable (reason : Text)
  | stated (text : Text)

inductive MemoryProblem where
  | tensor (name : Text) (shape : List Nat)
  | stated (text : Text)

def shapeText (shape : List Nat) : Text := Text.bracketed (shape.map Text.natural)

def ConfigurationProblem.fieldText (key : Text) (demand : Text) : Text :=
  "field '" ++ key ++ "' " ++ demand

def ConfigurationProblem.text : ConfigurationProblem → Text
  | .notAnObject => "operation descriptor must be an object"
  | .typeNotText => "operation descriptor needs a string 'type'"
  | .namesNotTexts key => "'" ++ key ++ "' must be a list of tensor names"
  | .fieldMissing key => "missing required field '" ++ key ++ "'"
  | .fieldNotText key => fieldText key "must be a string"
  | .fieldNotInteger key => fieldText key "must be an integer"
  | .fieldNotIntegers key => fieldText key "must be an integer or a list of integers"
  | .fieldNotNumbers key => fieldText key "must be a list of numbers"
  | .negativeDimension key => fieldText key "dimensions must be non-negative"
  | .unknownDataType key =>
    fieldText key "unsupported data type (expected 'single' or 'double')"
  | .tooFewInputs needed count =>
    "expected at least " ++ Text.integer needed ++ " input(s), got " ++ Text.integer count
  | .tooFewOutputs needed count =>
    "expected at least " ++ Text.integer needed ++ " output(s), got " ++ Text.integer count
  | .inputMissing name => "input tensor '" ++ name ++ "' not found in workspace"
  | .notAPair key => "'" ++ key ++ "' takes one or two values"
  | .notAPadding => "'pad' takes one, two or four values"
  | .strideOrPad => "stride must be positive and pad non-negative"
  | .notUtf8 reason offset =>
    "manifest is not valid UTF-8 (" ++ reason ++ " at byte " ++ Text.natural offset ++ ")"
  | .notJson reason line =>
    "manifest is not valid JSON (" ++ reason ++ " at line " ++ Text.natural line ++ ")"
  | .operationsMissing => "manifest needs an 'operations' list"
  | .stated text => text

def ValidationProblem.text : ValidationProblem → Text
  | .typeOrShapeMissing => "get-or-create needs both a data type and a shape"
  | .negativeDimension => "tensor dimensions must be non-negative"
  | .unsupportedElements => "unsupported array dtype"
  | .inputRank => "Conv input must be 3D or 4D"
  | .filterChannels => "filters do not match input channels"
  | .biasSize => "bias needs one value per filter"
  | .filtersTooLarge => "filters larger than padded input"
  | .averageSize => "averageColor needs one value per RGB channel"
  | .stated text => text

def ResourceProblem.text : ResourceProblem → Text
  | .manifestUnreadable reason => "cannot open manifest (" ++ reason ++ ")"
  | .tensorUnreadable reason => "cannot open tensor file (" ++ reason ++ ")"
  | .tensorTooShort name => "tensor file too short for '" ++ name ++ "'"
  | .imageUnreadable reason => "cannot read image (" ++ reason ++ ")"
  | .stated text => text

def MemoryProblem.text : MemoryProblem → Text
  | .tensor name shape => "cannot allocate tensor '" ++ name ++ "' of shape " ++ shapeText shape
  | .stated text => text

inductive BundleError where
  /-- An error of no kind below. A caller may derive errors of its own, with a code of their own. -/
  | general (message : Text) (suggestions : List Text) (context : List (Text × Json))
      (code : StatusCode := .internalError) (failing : code ≠ .ok := by decide)
  | configuration (problem : ConfigurationProblem) (key : Option Text) (value : Option Json)
      (operation : Option Text)
  | validation (problem : ValidationProblem) (parameter expected received : Option Text)
  | resource (problem : ResourceProblem) (path : Option Text) (expectedBytes readBytes : Option Int)
  | memory (problem : MemoryProblem) (megabytes : Option Text) (tensor : Option Text)
  | unsupported (operation : Text) (supported : List Text)

namespace BundleError

def code : BundleError → StatusCode
  | .general _ _ _ code _ => code
  | .configuration .. => .invalidArgument
  | .validation .. => .invalidArgument
  | .resource .. => .notFound
  | .memory .. => .outOfMemory
  | .unsupported .. => .notImplemented

def headline : BundleError → Text
  | .general message .. => message
  | .configuration problem _ _ _ => "Configuration error: " ++ problem.text
  | .validation problem _ _ _ => "Validation failed: " ++ problem.text
  | .resource problem _ _ _ => "Resource error: " ++ problem.text
  | .memory problem _ _ => "Memory error: " ++ problem.text
  | .unsupported operation _ => "Operation '" ++ operation ++ "' is not supported"

def suggestions : BundleError → List Text
  | .general _ suggestions .. => suggestions
  | .configuration .. => ["Check the operation descriptor in the manifest"]
  | .validation .. => []
  | .resource .. =>
    ["Check that the file exists next to the manifest", "Check the workspace base name"]
  | .memory .. => ["Reduce the declared tensor shape"]
  | .unsupported _ [] => []
  | .unsupported _ supported => ["Supported operations: " ++ Text.join ", " supported]

def noted (name : Text) : Option Text → List (Text × Json)
  | none | some [] => []
  | some t => [(name, .text t)]

def counted (name : Text) : Option Int → List (Text × Json)
  | none => []
  | some n => [(name, .int n)]

/-- The values concerned, in the order in which they are shown. A null is no value. -/
def context : BundleError → List (Text × Json)
  | .general _ _ context .. => context
  | .configuration _ key value operation =>
    let shown : Option Text := match value with
      | none | some .null => none
      | some v => some v.literal
    noted "operation" operation ++ noted "config_key" key ++ noted "config_value" shown
  | .validation _ parameter expected received =>
    noted "parameter" parameter ++ noted "expected" expected ++ noted "received" received
  | .resource _ path expectedBytes readBytes =>
    noted "path" path ++ counted "expected_bytes" expectedBytes ++ counted "read_bytes" readBytes
  | .memory _ megabytes tensor => noted "tensor" tensor ++ noted "requested_mb" megabytes
  | .unsupported operation _ => [("operation", .text operation)]

def numbered (start : Nat) : List Text → List Text
  | [] => []
  | s :: rest => ("  " ++ Text.natural start ++ ". " ++ s) :: numbered (start + 1) rest

def text (e : BundleError) : Text :=
  let advice := match e.suggestions with
    | [] => []
    | suggestions => [[], "Suggestions:"] ++ numbered 1 suggestions
  let details := match e.context with
    | [] => []
    | context =>
      [[], "Context:"] ++ context.map fun (key, value) => "  " ++ key ++ ": " ++ value.plain
  Text.lines ([e.headline] ++ advice ++ details)

def status (e : BundleError) : Status := .error e.code e.text

/-- A count of bytes in units of 2^20 bytes, with two places; the quotient is a floating-point
number first, and there is none for a count beyond their range. -/
def megabytes? (bytes : Int) : Option Text :=
  match Binary.double.ofRatio (bytes < 0) bytes.natAbs 1048576 with
  | .finite negative m q => some (Decimal.places 2 negative m q)
  | _ => none

def outOfMemory (problem : MemoryProblem) (bytes : Option Int) (tensor : Option Text) :
    Except Fault BundleError :=
  match bytes with
  | none => .ok (.memory problem none tensor)
  | some n => match megabytes? n with
    | some megabytes => .ok (.memory problem (some megabytes) tensor)
    | none => .error .quotientBeyondFloat

end BundleError

/-- Why an action does not finish: an error of the bundle, which a run reports as a status, or a
fault, which it does not. -/
inductive Failure where
  | error (e : BundleError)
  | fault (f : Fault)

/-! An error is worded when it is made. Where an integer in it has too many digits to be written out
there is no error, but the fault of its wording. -/

/-- The positions in a text that was read are not looked at: they count what is in memory. -/
def ConfigurationProblem.isWritable : ConfigurationProblem → Bool
  | .tooFewInputs needed count | .tooFewOutputs needed count =>
    Text.isWritable needed && Text.isWritable count
  | _ => true

def MemoryProblem.isWritable : MemoryProblem → Bool
  | .tensor _ shape => shape.all fun d => Text.isWritable d
  | .stated _ => true

namespace BundleError

def isWritable : BundleError → Bool
  | .general _ _ context .. => Json.areWritableMembers context
  | .configuration problem _ value _ => problem.isWritable && (value.map Json.isWritable).getD true
  | .validation .. => true
  | .resource _ _ expectedBytes readBytes =>
    (expectedBytes.map Text.isWritable).getD true && (readBytes.map Text.isWritable).getD true
  | .memory problem _ _ => problem.isWritable
  | .unsupported .. => true

def raised (e : BundleError) : Failure :=
  if e.isWritable then .error e else .fault .unwritableInteger

end BundleError

end TensorBundle
