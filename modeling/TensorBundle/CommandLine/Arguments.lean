import TensorBundle.Text
import TensorBundle.Text.Encoding
/-!
Arguments of the program: switches and words. A switch may be shortened as long as it stays the
only one that its beginning fits, its value may stand behind an equals sign or in the next argument,
and switches of one letter can be combined behind one dash. Behind a double dash all arguments are
words.
-/
namespace TensorBundle.CommandLine

structure Switch where
  names : List Text
  takesValue : Bool := false
  deriving DecidableEq, Repr

def Switch.label (s : Switch) : Text := Text.join "/" s.names

/-- What a command understands: its switches, and whether its words take all arguments from the
first word on. Otherwise there is one word. -/
structure Grammar where
  switches : List Switch
  takesAll : Bool
  deriving DecidableEq, Repr

def Grammar.names (g : Grammar) : List (Text × Switch) :=
  g.switches.flatMap fun s => s.names.map fun name => (name, s)

inductive Attached where
  | nothing
  | behind (t : Text)
  | assigned (t : Text)
  deriving DecidableEq, Repr

structure Candidate where
  name : Text
  switch : Switch
  attached : Attached
  deriving DecidableEq, Repr

inductive Kind where
  | word
  | separator
  | switch (candidate : Option Candidate)
  deriving DecidableEq, Repr

def dash : Code := Code.ofChar '-'

def equals : Code := Code.ofChar '='

def doubleDash : Text := "--"

def splitAssignment (t : Text) : Text × Attached :=
  match t.dropWhile (· ≠ equals) with
  | [] => (t, .nothing)
  | _ :: value => (t.takeWhile (· ≠ equals), .assigned value)

/-- The switches that an argument may mean without being the exact name of one. Behind two dashes
it is the beginning of a name; behind a single dash it may also be a name of one letter with more
behind it. -/
def Grammar.candidates (g : Grammar) (arg : Text) : List Candidate :=
  if doubleDash.isPrefixOf arg then
    let (start, attached) := splitAssignment arg
    (g.names.filter fun n => start.isPrefixOf n.1).map fun n => ⟨n.1, n.2, attached⟩
  else
    g.names.filterMap fun n =>
      if n.1 = arg.take 2 then some ⟨n.1, n.2, .behind (arg.drop 2)⟩
      else if arg.isPrefixOf n.1 then some ⟨n.1, n.2, .nothing⟩
      else none

def isDigits (t : Text) : Bool := !t.isEmpty && t.all fun c => c.digitValue?.isSome

def isNegativeNumber (arg : Text) : Bool :=
  match arg with
  | [] => false
  | c :: rest =>
    let number := if rest.getLast? = some (Code.ofChar '\n') then rest.dropLast else rest
    let whole := number.takeWhile fun c => c.digitValue?.isSome
    c == dash && (isDigits number ||
      match number.drop whole.length with
      | point :: fraction => point == Code.ofChar '.' && isDigits fraction
      | [] => false)

/-- Tells what an argument in front of any double dash is, or which switches it may mean if there
are several. -/
def Grammar.classify (g : Grammar) (arg : Text) : Except Text Kind :=
  if arg.head? ≠ some dash then .ok .word
  else match g.names.lookup arg with
    | some s => .ok (.switch (some ⟨arg, s, .nothing⟩))
    | none =>
      if arg.length = 1 then .ok .word
      else
        let (name, attached) := splitAssignment arg
        let assigned := if attached = .nothing then none else g.names.lookup name
        match assigned, g.candidates arg with
        | some s, _ => .ok (.switch (some ⟨name, s, attached⟩))
        | none, [candidate] => .ok (.switch (some candidate))
        | none, [] =>
          if isNegativeNumber arg || arg.contains (Code.ofChar ' ') then .ok .word
          else .ok (.switch none)
        | none, several =>
          .error ("ambiguous option: " ++ arg ++ " could match "
            ++ Text.join ", " (several.map Candidate.name))

structure Argument where
  text : Text
  kind : Kind
  deriving DecidableEq, Repr

def Grammar.classifyAll (g : Grammar) : List Text → Except Text (List Argument)
  | [] => .ok []
  | arg :: rest =>
    if arg = doubleDash then .ok (⟨arg, .separator⟩ :: rest.map fun word => ⟨word, .word⟩)
    else do
      let kind ← g.classify arg
      let others ← g.classifyAll rest
      pure (⟨arg, kind⟩ :: others)

inductive Found where
  | switch (s : Switch) (value : Option Text)
  | words (ws : List Text)
  deriving DecidableEq, Repr

inductive Ending where
  | finished (unknown : List Text)
  | failed (message : Text)
  deriving DecidableEq, Repr

structure Arguments where
  found : List Found
  ending : Ending
  deriving DecidableEq, Repr

def Arguments.behind (found : List Found) (unknown : List Text) (a : Arguments) : Arguments :=
  ⟨found ++ a.found, match a.ending with
    | .finished others => .finished (unknown ++ others)
    | .failed message => .failed message⟩

def complaint (s : Switch) (text : Text) : Text := "argument " ++ s.label ++ ": " ++ text

def ignored (s : Switch) (value : Text) : Text :=
  complaint s ("ignored explicit argument " ++ value.quoted)

structure Cluster where
  found : List Found
  unknown : List Text := []
  open? : Option Switch := none

def Grammar.cluster (g : Grammar) (s : Switch) : Text → Except Text Cluster
  | [] => .error (ignored s [])
  | c :: rest =>
    if s.takesValue then .ok { found := [.switch s (some (c :: rest))] }
    else if c = dash then .error (ignored s (c :: rest))
    else match g.names.lookup [dash, c] with
      | none => .ok { found := [.switch s none], unknown := [dash :: c :: rest] }
      | some next =>
        let tail : Except Text Cluster := match rest with
          | [] => if next.takesValue then .ok { found := [], open? := some next }
            else .ok { found := [.switch next none] }
          | d :: value =>
            if d = equals then
              if next.takesValue then .ok { found := [.switch next (some value)] }
              else .error (ignored next value)
            else g.cluster next rest
        tail.map fun cluster => { cluster with found := .switch s none :: cluster.found }

def Grammar.readSwitch (g : Grammar) (candidate : Candidate) : Except Text Cluster :=
  let s := candidate.switch
  match candidate.attached with
  | .nothing =>
    .ok (if s.takesValue then { found := [], open? := some s }
      else { found := [.switch s none] })
  | .assigned value =>
    if s.takesValue then .ok { found := [.switch s (some value)] } else .error (ignored s value)
  | .behind letters => g.cluster s letters

def Grammar.takeWords (g : Grammar) (args : List Argument) : Option (List Text × List Argument) :=
  let (dashes, rest) := args.span fun a => a.kind == .separator
  match rest with
  | ⟨word, .word⟩ :: tail =>
    if g.takesAll then some ((dashes ++ rest).map Argument.text, [])
    else
      let (behind, tail) := tail.span fun a => a.kind == .separator
      some ((dashes.map Argument.text ++ word :: behind.map Argument.text).erase doubleDash, tail)
  | _ => none

def Argument.isSwitch (a : Argument) : Bool := a.kind != .word && a.kind != .separator

/-- Reads arguments of which the words are still to be found or not. Each step takes an argument at
least, so that the number of arguments bounds the steps. -/
def Grammar.scan (g : Grammar) : (steps : Nat) → (wordsOpen : Bool) → List Argument → Arguments
  | 0, _, args => ⟨[], .finished (args.map Argument.text)⟩
  | steps + 1, wordsOpen, args =>
    match args with
    | ⟨text, .switch none⟩ :: rest => (g.scan steps wordsOpen rest).behind [] [text]
    | ⟨_, .switch (some candidate)⟩ :: rest =>
      match g.readSwitch candidate with
      | .error message => ⟨[], .failed message⟩
      | .ok cluster =>
        match cluster.open?, rest with
        | none, _ => (g.scan steps wordsOpen rest).behind cluster.found cluster.unknown
        | some s, ⟨value, .word⟩ :: rest =>
          (g.scan steps wordsOpen rest).behind (cluster.found ++ [.switch s (some value)]) []
        | some s, _ => ⟨[], .failed (complaint s "expected one argument")⟩
    | _ =>
      match (if wordsOpen then g.takeWords args else none) with
      | some (words, rest) => (g.scan steps false rest).behind [.words words] []
      | none =>
        let (skipped, rest) := args.span fun a => !a.isSwitch
        let unknown := skipped.map Argument.text
        if rest.isEmpty then ⟨[], .finished unknown⟩
        else (g.scan steps wordsOpen rest).behind [] unknown

def Grammar.read (g : Grammar) (args : List Text) : Arguments :=
  match g.classifyAll args with
  | .error message => ⟨[], .failed message⟩
  | .ok args => g.scan (args.length + 1) true args

structure RunRequest where
  bundle : Text
  manifest : Option Text := none
  forceReload : Bool := false
  lenient : Bool := false
  quiet : Bool := false
  verbose : Nat := 0
  deriving DecidableEq, Repr

inductive Request where
  | version
  | help
  | run (r : RunRequest)
  deriving DecidableEq, Repr

inductive Refusal where
  | shown (text : Text)
  | misused (usage program message : Text)
  deriving DecidableEq, Repr

def helpSwitch : Switch := ⟨["-h", "--help"], false⟩

def versionSwitch : Switch := ⟨["--version"], false⟩

def manifestSwitch : Switch := ⟨["--manifest"], true⟩

def forceReloadSwitch : Switch := ⟨["--force-reload"], false⟩

def lenientSwitch : Switch := ⟨["--lenient"], false⟩

def quietSwitch : Switch := ⟨["--quiet", "-q"], false⟩

def verboseSwitch : Switch := ⟨["--verbose", "-v"], false⟩

def programGrammar : Grammar := ⟨[helpSwitch, versionSwitch], true⟩

def runGrammar : Grammar :=
  ⟨[helpSwitch, manifestSwitch, forceReloadSwitch, lenientSwitch, quietSwitch, verboseSwitch],
    false⟩

def programName : Text := "portablenet"

def runName : Text := "run"

def runTitle : Text := programName ++ " " ++ runName

def programUsage : Text := "usage: portablenet [-h] [--version] \x7brun\x7d ...\n"

def programHelp : Text :=
  programUsage ++ "\n" ++
  "PortableNet - run serialized tensor programs\n" ++ "\n" ++
  "positional arguments:\n" ++
  "  \x7brun\x7d       Available commands\n" ++
  "    run       Load and execute a bundle directory\n" ++ "\n" ++
  "options:\n" ++
  "  -h, --help  show this help message and exit\n" ++
  "  --version   Show version information\n"

def runUsage : Text :=
  "usage: portablenet run [-h] [--manifest MANIFEST] [--force-reload] [--lenient]\n" ++
  "                       [--quiet] [--verbose]\n" ++
  "                       bundle\n"

def runHelp : Text :=
  runUsage ++ "\n" ++
  "positional arguments:\n" ++
  "  bundle               Directory holding the manifest and its resource files\n" ++ "\n" ++
  "options:\n" ++
  "  -h, --help           show this help message and exit\n" ++
  "  --manifest MANIFEST  Manifest file name inside the bundle (default:\n" ++
  "                       net.json)\n" ++
  "  --force-reload       Reload tensors that already exist in the workspace\n" ++
  "  --lenient            Warn instead of failing on missing resource files\n" ++
  "  --quiet, -q          Do not print the program and workspace summary\n" ++
  "  --verbose, -v        Increase log verbosity (-v info, -vv debug)\n"

def misusedRun (message : Text) : Refusal := .misused runUsage runTitle message

def misusedProgram (message : Text) : Refusal := .misused programUsage programName message

def RunRequest.set (r : RunRequest) (s : Switch) (value : Option Text) : RunRequest :=
  if s = manifestSwitch then { r with manifest := value }
  else if s = forceReloadSwitch then { r with forceReload := true }
  else if s = lenientSwitch then { r with lenient := true }
  else if s = quietSwitch then { r with quiet := true }
  else if s = verboseSwitch then { r with verbose := r.verbose + 1 }
  else r

structure RunSoFar where
  request : RunRequest := ⟨[], none, false, false, false, 0⟩
  bundle : Option Text := none

def RunSoFar.add (known : RunSoFar) : List Found → Except Refusal RunSoFar
  | [] => .ok known
  | .words words :: rest => add { known with bundle := words.head? } rest
  | .switch s value :: rest =>
    if s = helpSwitch then .error (.shown runHelp)
    else add { known with request := known.request.set s value } rest

def readRun (args : List Text) : Except Refusal (RunRequest × List Text) := do
  let read := runGrammar.read args
  let known ← RunSoFar.add {} read.found
  match read.ending, known.bundle with
  | .failed message, _ => .error (misusedRun message)
  | .finished _, none => .error (misusedRun "the following arguments are required: bundle")
  | .finished unknown, some bundle => .ok ({ known.request with bundle }, unknown)

structure SoFar where
  version : Bool := false
  run : Option RunRequest := none
  unknown : List Text := []

def SoFar.add (known : SoFar) : List Found → Except Refusal SoFar
  | [] => .ok known
  | .switch s _ :: rest =>
    if s = helpSwitch then .error (.shown programHelp) else add { known with version := true } rest
  | .words [] :: rest => add known rest
  | .words (name :: args) :: rest =>
    if name = runName then do
      let (run, unknown) ← readRun args
      add { known with run := some run, unknown } rest
    else
      .error (misusedProgram ("argument command: invalid choice: " ++ name.quoted
        ++ " (choose from "
        ++ runName.quoted ++ ")"))

def Request.ofArguments (args : List Text) : Except Refusal Request := do
  let read := programGrammar.read args
  let known ← SoFar.add {} read.found
  match read.ending with
  | .failed message => .error (misusedProgram message)
  | .finished unknown =>
    match unknown ++ known.unknown with
    | [] =>
      if known.version then pure .version
      else pure (match known.run with
        | some r => .run r
        | none => .help)
    | several => .error (misusedProgram ("unrecognized arguments: " ++ Text.join " " several))

end TensorBundle.CommandLine
