import TensorBundle.CommandLine.Run
/-!
The program on the command line. It looks up the environment variables and the files that a call may
need, and leaves all else to the library.
-/
namespace TensorBundle.Main

def variableNames : List String := ["PORTABLENET_MANIFEST", "PORTABLENET_FORCE_RELOAD",
  "PORTABLENET_STRICT_RESOURCES", "PORTABLENET_STRICT_MANIFEST", "PORTABLENET_VERBOSITY"]

def environment : IO Config.Environment := do
  let values ← variableNames.mapM fun name => do
    let value ← IO.getEnv name
    pure (value.map fun text => (Text.ofString name, Text.ofString text))
  pure (values.filterMap id)

def isCode (e : OpenError) (code : UInt32) : Bool :=
  code = e.number.toUInt32 || code = 0 - e.number.toUInt32

def openError : IO.Error → OpenError
  | .inappropriateType _ code _ =>
    if isCode .notDirectory code then .notDirectory
    else if isCode .isDirectory code then .isDirectory else .notFound
  | .invalidArgument _ code _ => if isCode .nameTooLong code then .nameTooLong else .notFound
  | _ => .notFound

def readFile (path : Text) : IO (Except OpenError (List UInt8)) := do
  try
    let bytes ← IO.FS.readBinFile path.toString
    pure (.ok bytes.toList)
  catch e => pure (.error (openError e))

def snapshot (paths : List Text) : IO Files := do
  let contents ← paths.mapM readFile
  pure (.ofTable (paths.zip contents))

end TensorBundle.Main

open TensorBundle in
def main (args : List String) : IO UInt32 := do
  let env ← Main.environment
  let args := args.map Text.ofString
  let manifest ← Main.snapshot (CommandLine.manifestPaths env args)
  let files ← Main.snapshot
    (CommandLine.manifestPaths env args ++ CommandLine.resourcePaths env manifest args)
  match CommandLine.call env files args with
  | .error fault =>
    (← IO.getStderr).putStr (CommandLine.errorLine fault.message).toString
    pure 1
  | .ok output =>
    (← IO.getStdout).putStr output.out.toString
    (← IO.getStderr).putStr output.err.toString
    pure output.exitCode.toUInt32
