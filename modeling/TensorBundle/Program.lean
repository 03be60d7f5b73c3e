import TensorBundle.Setting
import TensorBundle.Handler
import TensorBundle.Json.Literal
import TensorBundle.Operation
/-!
Programs: lists of operations, read from the manifest of a bundle, and the registry of the handlers
that run them. A program that cannot be read leaves the one that was there as it is. A run takes the
operations in order, and the first that fails ends it: what those before it did stays done.
-/
namespace TensorBundle

structure Registry where
  entries : List (Text × Handler) := []

namespace Registry

def handler? (r : Registry) (type : Text) : Option Handler := r.entries.lookup type

def isSupported (r : Registry) (type : Text) : Bool := (r.handler? type).isSome

def types (r : Registry) : List Text := Text.sorted (r.entries.map Prod.fst)

def size (r : Registry) : Nat := r.entries.length

def unregister (r : Registry) (type : Text) : Registry := ⟨r.entries.filter (·.1 ≠ type)⟩

def insert (r : Registry) (type : Text) (h : Handler) : Registry :=
  ⟨(r.unregister type).entries ++ [(type, h)]⟩

def replacement (r : Registry) (type : Text) (h : Handler) : List Log.Entry :=
  match r.handler? type with
  | none => []
  | some old =>
    if old.mark = h.mark then []
    else [⟨.debug, .registry, "Replacing handler for '" ++ type ++ "'"⟩]

def registerAll (r : Registry) (h : Handler) : List Text → Registry × List Log.Entry
  | [] => (r, [])
  | type :: rest =>
    let (after, log) := registerAll (r.insert type h) h rest
    (after, r.replacement type h ++ log)

def register (r : Registry) (type : Text) (aliases : List Text) (h : Handler) :
    Registry × List Log.Entry :=
  r.registerAll h (type :: aliases)

def find (r : Registry) (type : Text) : Except BundleError Handler :=
  match r.handler? type with
  | some h => .ok h
  | none => .error (.unsupported type r.types)

def unsupported (r : Registry) (types : List Text) : List Text :=
  types.filter fun t => !r.isSupported t

def builtIn : Registry :=
  ⟨[("Load", ⟨0, Handler.load⟩), ("LoadImage", ⟨1, Handler.loadImage⟩),
    ("Conv", ⟨2, Handler.convolution⟩)]⟩

end Registry

structure Program where
  source : Json := .object []
  operations : List Operation := []
  isLoaded : Bool := false

structure Loading where
  result : Except Failure Status
  program : Program
  log : List Log.Entry := []

namespace Program

def operationsOf (manifest : Json) : Except BundleError (List Operation) :=
  let entries := match manifest with
    | .object members => match Json.member? "operations" members with
      | some (.array entries) => some entries
      | _ => none
    | _ => none
  match entries with
  | some entries => entries.mapM Operation.ofJson
  | none => .error (.configuration .operationsMissing (some "operations") none none)

def ofManifest (manifest : Json) : Except BundleError Program := do
  let operations ← operationsOf manifest
  pure ⟨manifest, operations, true⟩

def ofBytes (path : Text) (bytes : List UInt8) : Except Failure Program :=
  let malformed (problem : ConfigurationProblem) : Failure :=
    .error (.configuration problem (some path) none none)
  match Utf8.decode bytes with
  | .error fault => .error (malformed (.notUtf8 fault.reason fault.offset))
  | .ok text => match Json.read text with
    | .error (.malformed problem offset) =>
      .error (malformed (.notJson problem.message (Json.lineOf text offset)))
    | .error (.tooManyDigits count) => .error (.fault (.tooManyDigits count))
    | .ok manifest => (ofManifest manifest).mapError Failure.error

def manifestPath (config : Config) (bundle : Text) : Text := Path.join bundle config.manifestName

/-- Loads the program of a bundle. Where the manifest cannot be opened, the strict policy fails
and the other one answers with a status. -/
def load (p : Program) (setting : Setting) (bundle : Text) : Loading :=
  let path := manifestPath setting.config bundle
  match Path.fault? path with
  | some fault => ⟨.error (.fault fault), p, []⟩
  | none => match setting.files.bytes path with
    | .error e =>
      if setting.config.strictManifest then
        ⟨.error (.error (.resource (.manifestUnreadable e.reason) (some path) none none)), p, []⟩
      else
        ⟨.ok (.error .notFound ("cannot open " ++ path)), p,
          [⟨.warning, .program, "Cannot open manifest " ++ path ++ "; program unchanged"⟩]⟩
    | .ok bytes => match ofBytes path bytes with
      | .error e => ⟨.error e, p, []⟩
      | .ok loaded =>
        ⟨.ok .success, loaded,
          [⟨.info, .program, "Loaded " ++ Text.natural loaded.operations.length
            ++ " operation(s) from " ++ path⟩]⟩

def loadManifest (p : Program) (manifest : Json) : Except BundleError Unit × Program :=
  match ofManifest manifest with
  | .ok loaded => (.ok (), loaded)
  | .error e => (.error e, p)

def size (p : Program) : Nat := p.operations.length

def dump (p : Program) (indent : Option Nat) : Text := p.source.print indent

def summaryIndent : Nat := 4

def text (p : Program) : Text :=
  "Program(operations=" ++ Text.natural p.size ++ ", loaded=" ++ Config.truthWord p.isLoaded ++ ")"

end Program
end TensorBundle

namespace TensorBundle.Program

def statusOf (answer : Option Status) : Status := answer.getD .success

def runOperation (setting : Setting) (registry : Registry) (op : Operation) : Action Status := do
  Action.tell .debug .program ("Executing " ++ op.type)
  Action.rescue BundleError.status do
    let handler ← Action.ofChecked (registry.find op.type)
    let answer ← handler.work setting op
    pure (statusOf answer)

def runFrom (setting : Setting) (registry : Registry) (index : Nat) : List Operation → Action Status
  | [] => pure .success
  | op :: rest => do
    let status ← runOperation setting registry op
    if status.isOk then runFrom setting registry (index + 1) rest
    else
      Action.tell .error .program ("Operation " ++ Text.natural index ++ " (" ++ op.type
        ++ ") failed: "
        ++ status.message)
      pure (status.atOperation index op.type)

def execute (p : Program) (setting : Setting) (registry : Registry) : Action Status :=
  runFrom setting registry 0 p.operations

def unsupportedTypes (p : Program) (registry : Registry) : List Text :=
  Text.sorted (registry.unsupported (p.operations.map (·.type))).eraseDups

def summary (p : Program) (ws : Option Workspace) : Except Fault Text :=
  match ws with
  | none => .ok (p.dump (some summaryIndent))
  | some ws => do pure (Text.lines [p.dump (some summaryIndent), ← ws.summary])

end TensorBundle.Program
