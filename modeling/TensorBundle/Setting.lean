import TensorBundle.Error
import TensorBundle.Text
import TensorBundle.Text.Encoding
/-!
Where a program runs: the policies of its configuration, what it logs, and the files that it reads.
File names are texts, with a slash between the names of directories. A NUL character or half of a
surrogate pair makes a text no file name; the surrogates from U+DC80 to U+DCFF stand for single
bytes.
-/
namespace TensorBundle.Log

inductive Level where
  | debug
  | info
  | warning
  | error
  deriving DecidableEq, Repr

def Level.rank : Level → Int
  | .debug => 10
  | .info => 20
  | .warning => 30
  | .error => 40

def Level.name : Level → Text
  | .debug => "DEBUG"
  | .info => "INFO"
  | .warning => "WARNING"
  | .error => "ERROR"

inductive Source where
  | workspace
  | registry
  | program
  | loading
  deriving DecidableEq, Repr

def Source.name : Source → Text
  | .workspace => "portablenet.execution.workspace"
  | .registry => "portablenet.execution.registry"
  | .program => "portablenet.execution.program"
  | .loading => "portablenet.execution.operators.load"

structure Entry where
  level : Level
  source : Source
  message : Text
  deriving DecidableEq, Repr

def atLeast (threshold : Int) (entries : List Entry) : List Entry :=
  entries.filter fun e => threshold ≤ e.level.rank

end TensorBundle.Log

namespace TensorBundle

/-- The policies: the name of the manifest inside a bundle, whether tensors that exist are loaded
again, whether a file that is missing or short fails its operation, whether a manifest that cannot
be opened is an error, and how much is told, from 0 (nothing) to 4 (all). -/
structure Config where
  manifestName : Text := "net.json"
  forceReload : Bool := false
  strictResources : Bool := true
  strictManifest : Bool := false
  verbose : Int := 2
  deriving DecidableEq, Repr

namespace Config

abbrev Environment := List (Text × Text)

def value? (env : Environment) (name : Text) : Option Text := env.lookup name

def isOn (value : Text) : Bool :=
  [("1" : Text), "true", "yes", "on"].contains value.trim.lowerAscii

def flag (env : Environment) (name : Text) (default : Bool) : Bool :=
  ((value? env name).map isOn).getD default

def clampVerbosity (n : Int) : Int := max 0 (min 4 n)

def verbosity (env : Environment) (default : Int) : Int :=
  match (value? env "PORTABLENET_VERBOSITY").map Text.toInteger with
  | some (.ok n) => clampVerbosity n
  | _ => default

def ofEnvironment (env : Environment) : Config where
  manifestName := (value? env "PORTABLENET_MANIFEST").getD "net.json"
  forceReload := flag env "PORTABLENET_FORCE_RELOAD" false
  strictResources := flag env "PORTABLENET_STRICT_RESOURCES" true
  strictManifest := flag env "PORTABLENET_STRICT_MANIFEST" false
  verbose := verbosity env 2

def logThreshold (c : Config) : Int :=
  if c.verbose ≤ 0 then 60 else 10 * (5 - min 4 c.verbose)

def truthWord (b : Bool) : Text := if b then "True" else "False"

def text (c : Config) : Text :=
  "ExecutionConfig(manifest_name=" ++ c.manifestName.quoted ++ ", force_reload="
    ++ truthWord c.forceReload ++ ", strict_resources=" ++ truthWord c.strictResources
    ++ ", strict_manifest=" ++ truthWord c.strictManifest ++ ", verbose=" ++ Text.integer c.verbose
    ++ ")"

end Config
end TensorBundle

namespace TensorBundle.Path

def join (directory file : Text) : Text :=
  if file.head? = some (Code.ofChar '/') then file
  else if directory = [] ∨ directory.getLast? = some (Code.ofChar '/') then directory ++ file
  else directory ++ "/" ++ file

def isSurrogate (c : Code) : Bool := c.isHighSurrogate || c.isLowSurrogate

def isByte (c : Code) : Bool := 0xDC80 ≤ c.val && c.val ≤ 0xDCFF

/-- The fault of the first surrogate that stands for no byte; it takes in the surrogates behind
it. -/
def surrogateFault? (offset : Nat) : Text → Option Fault
  | [] => none
  | c :: rest =>
    if isSurrogate c && !isByte c then
      some (.unencodablePath c offset (offset + (rest.takeWhile isSurrogate).length))
    else surrogateFault? (offset + 1) rest

def fault? (path : Text) : Option Fault :=
  match surrogateFault? 0 path with
  | some fault => some fault
  | none => if path.contains (Code.ofNat 0) then some .embeddedNul else none

def parts : Text → List Text
  | [] => [[]]
  | c :: rest =>
    if c = Code.ofChar '/' then [] :: parts rest
    else match parts rest with
      | [] => [[c]]
      | first :: others => (c :: first) :: others

def byteCount (name : Text) : Nat :=
  name.foldr (fun c total => (if isByte c then 1 else (Utf8.encodeCode c).length) + total) 0

end TensorBundle.Path

namespace TensorBundle

inductive OpenError where
  | notFound
  | isDirectory
  | notDirectory
  | nameTooLong
  deriving DecidableEq, Repr

namespace OpenError

def number : OpenError → Nat
  | .notFound => 2
  | .isDirectory => 21
  | .notDirectory => 20
  | .nameTooLong => 36

def reason : OpenError → Text
  | .notFound => "No such file or directory"
  | .isDirectory => "Is a directory"
  | .notDirectory => "Not a directory"
  | .nameTooLong => "File name too long"

end OpenError

structure Pixel where
  red : UInt8
  green : UInt8
  blue : UInt8
  deriving DecidableEq, Repr

namespace Pixel

def black : Pixel := ⟨0, 0, 0⟩

instance : Inhabited Pixel := ⟨black⟩

def gray (level : UInt8) : Pixel := ⟨level, level, level⟩

end Pixel

structure Image where
  width : Nat
  height : Nat
  pixels : List Pixel
  length_pixels : pixels.length = height * width

namespace Image

def grid (height width : Nat) (f : Nat → Nat → Pixel) : List Pixel :=
  (List.range height).flatMap fun y => (List.range width).map (f y)

theorem length_grid (height width : Nat) (f : Nat → Nat → Pixel) :
    (grid height width f).length = height * width := by
  simp only [grid, List.length_flatMap, List.length_map, List.length_range, List.map_const',
    List.sum_replicate_nat]

def tabulate (width height : Nat) (f : Nat → Nat → Pixel) : Image :=
  ⟨width, height, grid height width f, length_grid height width f⟩

def ofRows (width height : Nat) (rows : List (List Pixel)) : Image :=
  let rows := (rows.map List.toArray).toArray
  tabulate width height fun y x => ((rows[y]?.bind fun row => row[x]?)).getD .black

inductive Refusal (ρ : Type) where
  | problem (reason : ρ)
  | fault (f : Fault)

def Refusal.map {ρ σ : Type} (word : ρ → σ) : Refusal ρ → Refusal σ
  | .problem reason => .problem (word reason)
  | .fault f => .fault f

end Image

/-- What there is under each path: the bytes of a file, and the image that decoding it gives. How
images are decoded is no part of this library; whoever supplies the files decides it. -/
structure Files where
  bytes : Text → Except OpenError (List UInt8)
  image : Text → Except (Image.Refusal Text) Image

structure Setting where
  config : Config
  files : Files

end TensorBundle
