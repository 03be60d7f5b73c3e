import Mathlib
import TensorBundle.CommandLine.Arguments
/-!
Arguments that are spelled out are read as what they say: a run, with a bundle that is not written
like a switch, and with any switches in front of the bundle and behind it.
-/
namespace TensorBundle.CommandLine

inductive Flag where
  | forceReload
  | lenient
  | quiet
  | verbose

namespace Flag

def name : Flag → Text
  | .forceReload => "--force-reload"
  | .lenient => "--lenient"
  | .quiet => "--quiet"
  | .verbose => "--verbose"

def switch : Flag → Switch
  | .forceReload => forceReloadSwitch
  | .lenient => lenientSwitch
  | .quiet => quietSwitch
  | .verbose => verboseSwitch

def ask (r : RunRequest) : Flag → RunRequest
  | .forceReload => { r with forceReload := true }
  | .lenient => { r with lenient := true }
  | .quiet => { r with quiet := true }
  | .verbose => { r with verbose := r.verbose + 1 }

end Flag

inductive Letter where
  | quiet
  | verbose

namespace Letter

def code : Letter → Code
  | .quiet => Code.ofChar 'q'
  | .verbose => Code.ofChar 'v'

def flag : Letter → Flag
  | .quiet => .quiet
  | .verbose => .verbose

end Letter

/-- A switch of a run as it is written out: the name of a manifest stands in the argument behind
the switch or behind an equals sign, and letters can be combined behind one dash. -/
inductive Written where
  | manifest (name : Text)
  | assigned (name : Text)
  | flag (f : Flag)
  | letters (first : Letter) (more : List Letter)

namespace Written

def args : Written → List Text
  | .manifest name => ["--manifest", name]
  | .assigned name => ["--manifest=" ++ name]
  | .flag f => [f.name]
  | .letters first more => [dash :: (first :: more).map Letter.code]

/-- A name in an argument of its own is not written like a switch. -/
def Fits : Written → Prop
  | .manifest name => name.head? ≠ some dash
  | _ => True

def ask (r : RunRequest) : Written → RunRequest
  | .manifest name => { r with manifest := some name }
  | .assigned name => { r with manifest := some name }
  | .flag f => f.ask r
  | .letters first more => (first :: more).foldl (fun r letter => letter.flag.ask r) r

def arguments : Written → List Argument
  | .manifest name =>
      [⟨"--manifest", .switch (some ⟨"--manifest", manifestSwitch, .nothing⟩)⟩, ⟨name, .word⟩]
  | .assigned name =>
      [⟨"--manifest=" ++ name, .switch (some ⟨"--manifest", manifestSwitch, .assigned name⟩)⟩]
  | .flag f => [⟨f.name, .switch (some ⟨f.name, f.switch, .nothing⟩)⟩]
  | .letters first more =>
      [⟨dash :: (first :: more).map Letter.code,
        .switch (some ⟨[dash, first.code], first.flag.switch,
          if more.isEmpty then .nothing else .behind (more.map Letter.code)⟩)⟩]

def found : Written → List Found
  | .manifest name => [.switch manifestSwitch (some name)]
  | .assigned name => [.switch manifestSwitch (some name)]
  | .flag f => [.switch f.switch none]
  | .letters first more => (first :: more).map fun letter => .switch letter.flag.switch none

end Written

/-- What a run is asked for with a bundle and switches, one after another. -/
def asked (bundle : Text) (switches : List Written) : RunRequest :=
  switches.foldl Written.ask { bundle }

section Classify
variable {g : Grammar} {arg : Text}

theorem classify_word (word : arg.head? ≠ some dash) : g.classify arg = .ok .word := if_pos word

theorem classify_of_no_candidates (none : g.candidates arg = []) :
    ∃ kind, g.classify arg = .ok kind := by
  unfold Grammar.classify
  split
  · exact ⟨_, rfl⟩
  split
  · exact ⟨_, rfl⟩
  split
  · exact ⟨_, rfl⟩
  rw [none]
  dsimp only
  split
  · exact ⟨_, rfl⟩
  · simp at *
  · split
    · exact ⟨_, rfl⟩
    · exact ⟨_, rfl⟩
  · simp at *

theorem splitAssignment_of_no_equals (without : ∀ c ∈ arg, c ≠ equals) :
    splitAssignment arg = (arg, .nothing) := by
  have all : arg.dropWhile (· ≠ equals) = [] := by
    rw [List.dropWhile_eq_nil_iff]
    intro c member
    exact decide_eq_true (without c member)
  rw [splitAssignment, all]

section Unnamed
variable (dashed : arg.head? = some dash) (unnamed : g.names.lookup arg = none)
  (longer : arg.length ≠ 1)
include dashed unnamed longer

theorem classify_assignment {name value : Text} {s : Switch}
    (split : splitAssignment arg = (name, .assigned value))
    (named : g.names.lookup name = some s) :
    g.classify arg = .ok (.switch (some ⟨name, s, .assigned value⟩)) := by
  rw [Grammar.classify, if_neg (not_not.mpr dashed), unnamed]
  dsimp only
  rw [if_neg longer, split]
  dsimp only
  rw [if_neg nofun, named]

theorem classify_candidate {c : Candidate} (without : ∀ c ∈ arg, c ≠ equals)
    (only : g.candidates arg = [c]) : g.classify arg = .ok (.switch (some c)) := by
  rw [Grammar.classify, if_neg (not_not.mpr dashed), unnamed]
  dsimp only
  rw [if_neg longer, splitAssignment_of_no_equals without]
  dsimp only
  rw [if_pos rfl, only]

end Unnamed

theorem classifyAll_append {args more : List Text} {known others : List Argument}
    (plain : ∀ arg ∈ args, arg ≠ doubleDash) (first : g.classifyAll args = .ok known)
    (second : g.classifyAll more = .ok others) :
    g.classifyAll (args ++ more) = .ok (known ++ others) := by
  induction args generalizing known with
  | nil =>
      cases first
      exact second
  | cons arg args ih =>
      obtain ⟨notDashes, plain⟩ := List.forall_mem_cons.mp plain
      rw [Grammar.classifyAll, if_neg notDashes] at first
      rw [List.cons_append, Grammar.classifyAll, if_neg notDashes]
      cases kind : g.classify arg with
      | error message =>
          rw [kind] at first
          cases first
      | ok kind =>
          cases rest : g.classifyAll args with
          | error message =>
              simp [kind, rest, bind, Except.bind] at first
          | ok found =>
              simp [kind, rest, bind, Except.bind, pure, Except.pure] at first
              subst first
              rw [ih plain rest]
              rfl

theorem exists_classifyAll {args : List Text}
    (each : ∀ arg ∈ args, ∃ kind, g.classify arg = .ok kind) :
    ∃ known, g.classifyAll args = .ok known ∧ known.map Argument.text = args := by
  induction args with
  | nil => exact ⟨[], rfl, rfl⟩
  | cons arg args ih =>
      obtain ⟨⟨kind, first⟩, others⟩ := List.forall_mem_cons.mp each
      obtain ⟨known, rest, texts⟩ := ih others
      rw [Grammar.classifyAll]
      split
      · exact ⟨_, rfl, by simp [Function.comp_def]⟩
      · rw [first, rest]
        exact ⟨_, rfl, by rw [List.map_cons, texts]⟩

end Classify

section Spelling

theorem ne_doubleDash {word : Text} (plain : word.head? ≠ some dash) : word ≠ doubleDash := by
  rintro rfl
  exact plain rfl

theorem splitAssignment_manifest (name : Text) :
    splitAssignment (("--manifest=" : Text) ++ name) =
      (Text.ofString "--manifest", Attached.assigned name) := rfl

theorem letters_no_equals (letters : List Letter) :
    ∀ c ∈ dash :: letters.map Letter.code, c ≠ equals := by
  refine List.forall_mem_cons.mpr ⟨by decide, fun c member => ?_⟩
  obtain ⟨letter, _, rfl⟩ := List.mem_map.mp member
  cases letter <;> decide

theorem classify_assigned (name : Text) :
    runGrammar.classify (("--manifest=" : Text) ++ name) =
      .ok (.switch (some ⟨"--manifest", manifestSwitch, .assigned name⟩)) :=
  classify_assignment rfl rfl (by simp [Text.ofString]) (splitAssignment_manifest name) rfl

theorem classify_letter (letter : Letter) :
    runGrammar.classify [dash, letter.code] =
      .ok (.switch (some ⟨[dash, letter.code], letter.flag.switch, .nothing⟩)) := by
  cases letter <;> rfl

theorem classify_letters (first second : Letter) (more : List Letter) :
    runGrammar.classify (dash :: (first :: second :: more).map Letter.code) =
      .ok (.switch (some ⟨[dash, first.code], first.flag.switch,
        .behind ((second :: more).map Letter.code)⟩)) := by
  apply classify_candidate rfl
  · cases first <;> cases second <;> rfl
  · simp
  · exact letters_no_equals _
  · cases first <;> cases second <;> rfl

theorem classifyAll_single {g : Grammar} {arg : Text} {kind : Kind} (plain : arg ≠ doubleDash)
    (classified : g.classify arg = .ok kind) : g.classifyAll [arg] = .ok [⟨arg, kind⟩] := by
  rw [Grammar.classifyAll, if_neg plain, classified]
  rfl

theorem classifyAll_written (w : Written) (fits : w.Fits) :
    runGrammar.classifyAll w.args = .ok w.arguments := by
  cases w with
  | manifest name =>
      have word := classifyAll_single (ne_doubleDash fits) (classify_word (g := runGrammar) fits)
      have switch : runGrammar.classifyAll ["--manifest"] = .ok [_] :=
        classifyAll_single (by decide) rfl
      exact classifyAll_append (List.forall_mem_singleton.mpr (by decide)) switch word
  | assigned name =>
      exact classifyAll_single (by simp [Text.ofString, doubleDash]) (classify_assigned name)
  | flag f => cases f <;> rfl
  | letters first more =>
      cases more with
      | nil =>
          exact classifyAll_single (by cases first <;> decide) (classify_letter first)
      | cons second more =>
          exact classifyAll_single (by cases first <;> simp [doubleDash, Text.ofString])
            (classify_letters first second more)

theorem ne_doubleDash_of_written (w : Written) (fits : w.Fits) :
    ∀ arg ∈ w.args, arg ≠ doubleDash := by
  cases w with
  | manifest name => simpa [Written.args, Text.ofString, doubleDash] using ne_doubleDash fits
  | letters first more =>
      rw [Written.args, List.forall_mem_singleton]
      intro same
      -- Behind the dash there is a letter and no other dash.
      have second : first.code = Code.ofChar '-' := (List.cons.inj (List.cons.inj same).2).1
      cases first <;> exact absurd second (by decide)
  | assigned name => simp [Written.args, Text.ofString, doubleDash]
  | flag f => cases f <;> simp [Written.args, Flag.name, Text.ofString, doubleDash]

theorem classifyAll_switches {switches : List Written} (fits : ∀ w ∈ switches, w.Fits) :
    runGrammar.classifyAll (switches.flatMap Written.args) =
      .ok (switches.flatMap Written.arguments) := by
  induction switches with
  | nil => rfl
  | cons w switches ih =>
      obtain ⟨first, others⟩ := List.forall_mem_cons.mp fits
      rw [List.flatMap_cons, List.flatMap_cons]
      exact classifyAll_append (ne_doubleDash_of_written w first) (classifyAll_written w first)
        (ih others)

/-- No argument of a run can be taken for more than one switch of the program. -/
theorem classify_program (w : Written) (fits : w.Fits) :
    ∀ arg ∈ w.args, ∃ kind, programGrammar.classify arg = .ok kind := by
  have fixed {arg : Text} (none : programGrammar.candidates arg = []) :
      ∀ other ∈ [arg], ∃ kind, programGrammar.classify other = .ok kind := by
    intro other member
    rw [List.mem_singleton.mp member]
    exact classify_of_no_candidates none
  cases w with
  | manifest name =>
      refine List.forall_mem_cons.mpr ⟨classify_of_no_candidates rfl, ?_⟩
      intro other member
      rw [List.mem_singleton.mp member]
      exact ⟨.word, classify_word fits⟩
  | assigned name => exact fixed rfl
  | flag f =>
      apply fixed
      cases f <;> rfl
  | letters first more =>
      apply fixed
      cases first <;> cases more <;> rfl

end Spelling

section Scan

theorem behind_behind (a : Arguments) (found earlier : List Found) :
    (a.behind found []).behind earlier [] = a.behind (earlier ++ found) [] := by
  cases a with
  | mk later ending => cases ending <;> simp [Arguments.behind]

theorem cluster_letters (first : Letter) (second : Letter) (more : List Letter) :
    runGrammar.cluster first.flag.switch ((second :: more).map Letter.code) =
      .ok { found :=
        (first :: second :: more).map fun letter => .switch letter.flag.switch none } := by
  induction more generalizing first second with
  | nil => cases first <;> cases second <;> rfl
  | cons third more ih =>
      have next := ih second third
      have step : runGrammar.cluster first.flag.switch ((second :: third :: more).map Letter.code) =
          (runGrammar.cluster second.flag.switch ((third :: more).map Letter.code)).map
            fun cluster =>
              { cluster with found := .switch first.flag.switch none :: cluster.found } := by
        cases first <;> cases second <;> cases third <;> rfl
      rw [step, next]
      rfl

theorem scan_written (w : Written) (steps : Nat) (wordsOpen : Bool) (rest : List Argument) :
    runGrammar.scan (steps + 1) wordsOpen (w.arguments ++ rest) =
      (runGrammar.scan steps wordsOpen rest).behind w.found [] := by
  cases w with
  | manifest name => rfl
  | assigned name => rfl
  | flag f => cases f <;> rfl
  | letters first more =>
      cases more with
      | nil => cases first <;> rfl
      | cons second more =>
          have cluster := cluster_letters first second more
          rw [Written.arguments, List.singleton_append, Grammar.scan, Grammar.readSwitch]
          dsimp only [List.isEmpty_cons]
          rw [if_neg Bool.false_ne_true]
          dsimp only
          rw [cluster]
          rfl

theorem scan_switches (switches : List Written) (steps : Nat) (wordsOpen : Bool)
    (rest : List Argument) :
    runGrammar.scan (steps + switches.length) wordsOpen
        (switches.flatMap Written.arguments ++ rest) =
      (runGrammar.scan steps wordsOpen rest).behind (switches.flatMap Written.found) [] := by
  induction switches with
  | nil =>
      cases scanned : runGrammar.scan steps wordsOpen rest with
      | mk found ending => cases ending <;> simp [Arguments.behind, scanned]
  | cons w switches ih =>
      rw [List.flatMap_cons, List.flatMap_cons, List.append_assoc, List.length_cons,
        ← Nat.add_assoc, scan_written, ih, behind_behind]

theorem not_separator_of_written (w : Written) : ∀ a ∈ w.arguments, a.kind ≠ .separator := by
  cases w <;> simp [Written.arguments]

theorem scan_word {word : Text} (plain : word ≠ doubleDash) (steps : Nat) {rest : List Argument}
    (others : ∀ a ∈ rest, a.kind ≠ .separator) :
    runGrammar.scan (steps + 1) true (⟨word, .word⟩ :: rest) =
      (runGrammar.scan steps false rest).behind [.words [word]] [] := by
  have here : List.span (fun a => a.kind == Kind.separator) (⟨word, .word⟩ :: rest) =
      ([], ⟨word, .word⟩ :: rest) := rfl
  have behind : rest.span (fun a => a.kind == .separator) = ([], rest) := by
    cases rest with
    | nil => rfl
    | cons a rest =>
        have other : (a.kind == .separator) = false :=
          beq_eq_false_iff_ne.mpr (others a (List.mem_cons_self ..))
        simp [List.span_eq_takeWhile_dropWhile, other]
  have words : runGrammar.takeWords (⟨word, .word⟩ :: rest) = some ([word], rest) := by
    have kept : [word].erase doubleDash = [word] :=
      List.erase_of_not_mem (by simpa using Ne.symm plain)
    rw [Grammar.takeWords, here]
    dsimp only
    rw [if_neg (by decide), behind]
    exact congrArg (fun ws => some (ws, rest)) kept
  rw [Grammar.scan.eq_def]
  dsimp only
  rw [if_pos rfl, words]

theorem scan_nothing (steps : Nat) :
    runGrammar.scan steps false [] = ⟨[], .finished []⟩ := by
  cases steps <;> rfl

theorem length_le_arguments (switches : List Written) :
    switches.length ≤ (switches.flatMap Written.arguments).length := by
  induction switches with
  | nil => exact le_rfl
  | cons w switches ih =>
      have some : 0 < w.arguments.length := by cases w <;> simp [Written.arguments]
      rw [List.flatMap_cons, List.length_append, List.length_cons]
      omega

section Run
variable {bundle : Text} (plain : bundle.head? ≠ some dash) {before after : List Written}
  (fits : ∀ w ∈ before ++ after, w.Fits)
include plain fits

theorem classifyAll_run :
    runGrammar.classifyAll (before.flatMap Written.args ++ bundle :: after.flatMap Written.args) =
      .ok (before.flatMap Written.arguments ++ ⟨bundle, .word⟩ ::
        after.flatMap Written.arguments) := by
  obtain ⟨fitsBefore, fitsAfter⟩ := List.forall_mem_append.mp fits
  have word := classifyAll_single (ne_doubleDash plain) (classify_word (g := runGrammar) plain)
  have behind := classifyAll_append (List.forall_mem_singleton.mpr (ne_doubleDash plain)) word
    (classifyAll_switches fitsAfter)
  refine classifyAll_append ?_ (classifyAll_switches fitsBefore) behind
  intro arg member
  obtain ⟨w, listed, written⟩ := List.mem_flatMap.mp member
  exact ne_doubleDash_of_written w (fitsBefore w listed) arg written

/-- The switches of a run and its word are found one after another, and nothing is left over. -/
theorem read_run :
    runGrammar.read (before.flatMap Written.args ++ bundle :: after.flatMap Written.args) =
      ⟨before.flatMap Written.found ++ .words [bundle] :: after.flatMap Written.found,
        .finished []⟩ := by
  have noSeparator : ∀ a ∈ after.flatMap Written.arguments, a.kind ≠ .separator := by
    intro a member
    obtain ⟨w, _, written⟩ := List.mem_flatMap.mp member
    exact not_separator_of_written w a written
  -- Each switch takes one step and the word another, so that there are steps left over.
  obtain ⟨more, fuel⟩ : ∃ more, (before.flatMap Written.arguments ++ ⟨bundle, .word⟩ ::
      after.flatMap Written.arguments).length + 1 = more + after.length + 1 + before.length := by
    have first := length_le_arguments before
    have second := length_le_arguments after
    rw [List.length_append, List.length_cons]
    exact ⟨_, (by omega : _ = ((before.flatMap Written.arguments).length - before.length +
      ((after.flatMap Written.arguments).length - after.length) + 1) + after.length + 1 +
        before.length)⟩
  have ended := scan_switches after more false []
  rw [List.append_nil, scan_nothing] at ended
  rw [Grammar.read, classifyAll_run plain fits]
  dsimp only
  rw [fuel, scan_switches, scan_word (ne_doubleDash plain) _ noSeparator, ended, behind_behind,
    behind_behind]
  simp [Arguments.behind]

end Run

end Scan

section Requests

theorem add_written (w : Written) (known : RunSoFar) (rest : List Found) :
    known.add (w.found ++ rest) =
      RunSoFar.add { known with request := w.ask known.request } rest := by
  cases w with
  | manifest name => rfl
  | assigned name => rfl
  | flag f => cases f <;> rfl
  | letters first more =>
      change known.add
          (((first :: more).map fun letter => .switch letter.flag.switch none) ++ rest) =
        RunSoFar.add
          { known with
            request := (first :: more).foldl (fun r letter => letter.flag.ask r) known.request }
          rest
      generalize first :: more = letters
      induction letters generalizing known with
      | nil => rfl
      | cons letter letters ih =>
          rw [List.foldl_cons, ← ih { known with request := letter.flag.ask known.request }]
          cases letter <;> rfl

theorem add_switches (switches : List Written) (known : RunSoFar) (rest : List Found) :
    known.add (switches.flatMap Written.found ++ rest) =
      RunSoFar.add { known with request := switches.foldl Written.ask known.request } rest := by
  induction switches generalizing known with
  | nil => rfl
  | cons w switches ih =>
      rw [List.flatMap_cons, List.append_assoc, add_written, ih]
      rfl

theorem ask_bundle (w : Written) (r : RunRequest) (bundle : Text) :
    { w.ask r with bundle } = w.ask { r with bundle } := by
  cases w with
  | manifest name => rfl
  | assigned name => rfl
  | flag f => cases f <;> rfl
  | letters first more =>
      change { (first :: more).foldl (fun r letter => letter.flag.ask r) r with bundle } =
        (first :: more).foldl (fun r letter => letter.flag.ask r) { r with bundle }
      generalize first :: more = letters
      induction letters generalizing r with
      | nil => rfl
      | cons letter letters ih =>
          rw [List.foldl_cons, List.foldl_cons, ih]
          cases letter <;> rfl

theorem asked_bundle (switches : List Written) (r : RunRequest) (bundle : Text) :
    { switches.foldl Written.ask r with bundle } =
      switches.foldl Written.ask { r with bundle } := by
  induction switches generalizing r with
  | nil => rfl
  | cons w switches ih => rw [List.foldl_cons, List.foldl_cons, ih, ask_bundle]

variable {bundle : Text} (plain : bundle.head? ≠ some dash) {before after : List Written}
  (fits : ∀ w ∈ before ++ after, w.Fits)
include plain fits

theorem readRun_asked :
    readRun (before.flatMap Written.args ++ bundle :: after.flatMap Written.args) =
      .ok (asked bundle (before ++ after), []) := by
  have known : RunSoFar.add {} (before.flatMap Written.found ++ .words [bundle] ::
      after.flatMap Written.found) = .ok ⟨(before ++ after).foldl Written.ask
        ⟨[], none, false, false, false, 0⟩, some bundle⟩ := by
    rw [add_switches, RunSoFar.add, ← List.append_nil (after.flatMap Written.found), add_switches,
      List.foldl_append]
    rfl
  rw [readRun, read_run plain fits]
  dsimp only
  rw [known]
  change Except.ok (_, _) = _
  rw [asked_bundle]
  rfl

/-- A command that is spelled out is read as a run with its bundle and all of its switches. -/
theorem ofArguments_written :
    Request.ofArguments (runName ::
      (before.flatMap Written.args ++ bundle :: after.flatMap Written.args)) =
        .ok (.run (asked bundle (before ++ after))) := by
  have each : ∀ arg ∈ before.flatMap Written.args ++ bundle :: after.flatMap Written.args,
      ∃ kind, programGrammar.classify arg = .ok kind := by
    have switches {ws : List Written} (fits : ∀ w ∈ ws, w.Fits) :
        ∀ arg ∈ ws.flatMap Written.args, ∃ kind, programGrammar.classify arg = .ok kind := by
      intro arg member
      obtain ⟨w, listed, written⟩ := List.mem_flatMap.mp member
      exact classify_program w (fits w listed) arg written
    obtain ⟨fitsBefore, fitsAfter⟩ := List.forall_mem_append.mp fits
    exact List.forall_mem_append.mpr ⟨switches fitsBefore,
      List.forall_mem_cons.mpr ⟨⟨.word, classify_word plain⟩, switches fitsAfter⟩⟩
  obtain ⟨known, classified, texts⟩ := exists_classifyAll each
  -- For the program all of these are words, as they stand behind its first one.
  have read : programGrammar.read (runName ::
      (before.flatMap Written.args ++ bundle :: after.flatMap Written.args)) =
        ⟨[.words (runName ::
          (before.flatMap Written.args ++ bundle :: after.flatMap Written.args))],
          .finished []⟩ := by
    rw [Grammar.read, Grammar.classifyAll, classified, ← texts]
    rfl
  rw [Request.ofArguments, read]
  change (SoFar.add {} [.words (runName :: _)] >>= _) = _
  rw [SoFar.add, if_pos rfl, readRun_asked plain fits]
  rfl

end Requests

end TensorBundle.CommandLine
