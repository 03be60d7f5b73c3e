import Mathlib
import TensorBundle.FileTree
import TensorBundle.Program
import TensorBundle.Proofs.Json.Printing
import TensorBundle.Proofs.Json.Reading
import TensorBundle.Proofs.Operation.Fields
/-!
Loading a program again and again. A call replaces the whole program or nothing of it: the program
that there is comes from the last call that succeeded, whatever the calls after it failed for. A
manifest that cannot be opened and one that cannot be used each have their own kind of failure, and
one that was loaded can be read back from the dump of its program.
-/
namespace TensorBundle.Program

/-- A call that loads a program: from the manifest of a bundle, in a setting of its own, or from a
manifest that was read before. -/
inductive Reload where
  | bundle (setting : Setting) (path : Text)
  | manifest (document : Json)

def reload (p : Program) : Reload → Loading
  | .bundle setting path => p.load setting path
  | .manifest document =>
      let (result, after) := p.loadManifest document
      ⟨(result.map fun _ => .success).mapError .error, after, []⟩

def Accepts (p : Program) (call : Reload) : Prop :=
  ∃ status, (p.reload call).result = .ok status ∧ status.isOk = true

def reloads (p : Program) (calls : List Reload) : Program :=
  calls.foldl (fun now call => (now.reload call).program) p

def AllFail (p : Program) (calls : List Reload) : Prop :=
  ∀ earlier call later, calls = earlier ++ call :: later → ¬ (p.reloads earlier).Accepts call

/-- The program that the last call to succeed has made, or the one at the start if none did. -/
inductive Latest (p : Program) : List Reload → Program → Prop where
  | start (calls : List Reload) (fail : p.AllFail calls) : Latest p calls p
  | accepted (earlier : List Reload) (call : Reload) (later : List Reload)
      (accepts : (p.reloads earlier).Accepts call)
      (fail : ((p.reloads earlier).reload call).program.AllFail later) :
      Latest p (earlier ++ call :: later) ((p.reloads earlier).reload call).program

def Lists (document : Json) (entries : List Json) : Prop :=
  ∃ members, document = .object members ∧
    Json.member? "operations" members = some (.array entries)

def IsManifest (document : Json) : Prop :=
  ∃ entries, Lists document entries ∧ ∀ entry ∈ entries, Operation.IsEntry entry

/-- A program that was loaded from a manifest, with an operation for each entry in its order. -/
structure LoadedFrom (document : Json) (p : Program) : Prop where
  source : p.source = document
  loaded : p.isLoaded = true
  operations : ∃ entries, Lists document entries ∧
    List.Forall₂ (fun entry op => Operation.ofJson entry = .ok op) entries p.operations

/-- The file of a manifest can be opened, its bytes are a text, and the text is a document. -/
def Contains (setting : Setting) (bundle : Text) (document : Json) : Prop :=
  Path.fault? (manifestPath setting.config bundle) = none ∧
    ∃ bytes text, setting.files.bytes (manifestPath setting.config bundle) = .ok bytes ∧
      Utf8.decode bytes = .ok text ∧ Json.read text = .ok document

theorem operationsOf_eq_ok_iff (document : Json) (ops : List Operation) :
    operationsOf document = .ok ops ↔ ∃ entries, Lists document entries ∧
      List.Forall₂ (fun entry op => Operation.ofJson entry = .ok op) entries ops := by
  constructor
  · intro read
    unfold operationsOf at read
    dsimp only at read
    split at read
    · rename_i entries found
      refine ⟨entries, ?_, (mapM_eq_ok_iff _ entries ops).mp read⟩
      split at found
      · rename_i members
        split at found
        · rename_i listed
          cases found
          exact ⟨members, rfl, listed⟩
        · cases found
      · cases found
    · cases read
  · rintro ⟨entries, ⟨members, rfl, listed⟩, each⟩
    simp only [operationsOf, listed]
    exact (mapM_eq_ok_iff _ entries ops).mpr each

theorem ofManifest_eq_ok_iff (document : Json) (p : Program) :
    ofManifest document = .ok p ↔ LoadedFrom document p := by
  constructor
  · intro read
    obtain ⟨ops, operations, read⟩ := bind_eq_ok read
    cases read
    exact ⟨rfl, rfl, (operationsOf_eq_ok_iff document ops).mp operations⟩
  · rintro ⟨source, loaded, operations⟩
    have read := (operationsOf_eq_ok_iff document p.operations).mpr operations
    simp only [ofManifest, read]
    change Except.ok _ = _
    rw [← source, ← loaded]

theorem exists_operations_iff (entries : List Json) :
    (∃ ops, List.Forall₂ (fun entry op => Operation.ofJson entry = .ok op) entries ops) ↔
      ∀ entry ∈ entries, Operation.IsEntry entry := by
  induction entries with
  | nil => simp
  | cons entry rest ih =>
      rw [List.forall_mem_cons, ← ih, ← Operation.exists_ofJson_iff]
      constructor
      · rintro ⟨ops, each⟩
        cases each with
        | cons first tail => exact ⟨⟨_, first⟩, _, tail⟩
      · rintro ⟨⟨op, first⟩, ops, tail⟩
        exact ⟨op :: ops, .cons first tail⟩

theorem exists_loadedFrom_iff (document : Json) :
    (∃ p, LoadedFrom document p) ↔ IsManifest document := by
  constructor
  · rintro ⟨p, loaded⟩
    obtain ⟨entries, listed, each⟩ := loaded.operations
    exact ⟨entries, listed, (exists_operations_iff entries).mp ⟨_, each⟩⟩
  · rintro ⟨entries, listed, valid⟩
    obtain ⟨ops, each⟩ := (exists_operations_iff entries).mpr valid
    exact ⟨⟨document, ops, true⟩, rfl, rfl, entries, listed, each⟩

section Call
variable (p : Program) (setting : Setting) (path : Text) (document : Json)

theorem reload_manifest_accepted (valid : IsManifest document) :
    p.Accepts (.manifest document) ∧
      LoadedFrom document (p.reload (.manifest document)).program := by
  obtain ⟨loaded, isLoaded⟩ := (exists_loadedFrom_iff document).mpr valid
  have read := (ofManifest_eq_ok_iff document loaded).mpr isLoaded
  simp only [Accepts, reload, loadManifest, read]
  exact ⟨⟨.success, rfl, rfl⟩, isLoaded⟩

theorem reload_manifest_rejected (invalid : ¬ IsManifest document) :
    ¬ p.Accepts (.manifest document) ∧ (p.reload (.manifest document)).program = p := by
  cases read : ofManifest document with
  | ok loaded =>
      exact absurd ((exists_loadedFrom_iff document).mp
        ⟨loaded, (ofManifest_eq_ok_iff document loaded).mp read⟩) invalid
  | error e =>
      simp only [Accepts, reload, loadManifest, read]
      refine ⟨?_, trivial⟩
      rintro ⟨status, accepted, _⟩
      cases accepted

theorem accepts_manifest_iff : p.Accepts (.manifest document) ↔ IsManifest document := by
  constructor
  · intro accepts
    by_contra invalid
    exact (reload_manifest_rejected p document invalid).1 accepts
  · intro valid
    exact (reload_manifest_accepted p document valid).1

theorem reload_bundle_of_contains (contains : Contains setting path document) :
    (p.Accepts (.bundle setting path) ↔ p.Accepts (.manifest document)) ∧
      (p.reload (.bundle setting path)).program = (p.reload (.manifest document)).program := by
  obtain ⟨namable, bytes, text, opened, decoded, parsed⟩ := contains
  cases read : ofManifest document with
  | ok loaded =>
      simp only [Accepts, reload, load, loadManifest, namable, opened, ofBytes, decoded, parsed,
        read, Except.mapError, Except.map, and_self]
  | error e =>
      simp only [Accepts, reload, load, loadManifest, namable, opened, ofBytes, decoded, parsed,
        read, Except.mapError, Except.map]
      simp

theorem reload_bundle_of_unread (unread : ∀ document, ¬ Contains setting path document) :
    ¬ p.Accepts (.bundle setting path) ∧ (p.reload (.bundle setting path)).program = p := by
  simp only [Accepts, reload, load]
  cases namable : Path.fault? (manifestPath setting.config path) with
  | some fault => simp
  | none =>
      cases opened : setting.files.bytes (manifestPath setting.config path) with
      | error e =>
          cases setting.config.strictManifest with
          | true => simp
          | false =>
              refine ⟨?_, rfl⟩
              rintro ⟨status, answer, well⟩
              cases answer
              cases well
      | ok bytes =>
          cases decoded : Utf8.decode bytes with
          | error fault => simp [ofBytes, decoded]
          | ok text =>
              cases parsed : Json.read text with
              | error fault => cases fault <;> simp [ofBytes, decoded, parsed]
              | ok document =>
                  exact absurd ⟨namable, bytes, text, opened, decoded, parsed⟩ (unread document)

theorem accepts_bundle_iff : p.Accepts (.bundle setting path) ↔
    ∃ document, Contains setting path document ∧ IsManifest document := by
  constructor
  · intro accepts
    by_cases readable : ∃ document, Contains setting path document
    · obtain ⟨document, contains⟩ := readable
      have same := (reload_bundle_of_contains p setting path document contains).1
      exact ⟨document, contains, (accepts_manifest_iff p document).mp (same.mp accepts)⟩
    · exact absurd accepts (reload_bundle_of_unread p setting path (not_exists.mp readable)).1
  · rintro ⟨document, contains, valid⟩
    have same := (reload_bundle_of_contains p setting path document contains).1
    exact same.mpr ((accepts_manifest_iff p document).mpr valid)

/-- A call that fails leaves the program as it is. -/
theorem reload_of_rejected (call : Reload) (rejects : ¬ p.Accepts call) :
    (p.reload call).program = p := by
  cases call with
  | manifest document =>
      exact (reload_manifest_rejected p document
        fun valid => rejects ((accepts_manifest_iff p document).mpr valid)).2
  | bundle setting path =>
      by_cases readable : ∃ document, Contains setting path document
      · obtain ⟨document, contains⟩ := readable
        obtain ⟨accepts, program⟩ := reload_bundle_of_contains p setting path document contains
        rw [program]
        exact (reload_manifest_rejected p document fun valid =>
          rejects (accepts.mpr ((accepts_manifest_iff p document).mpr valid))).2
      · exact (reload_bundle_of_unread p setting path (not_exists.mp readable)).2

end Call

theorem allFail_cons {p : Program} {call : Reload} {rest : List Reload} (rejects : ¬ p.Accepts call)
    (fail : (p.reload call).program.AllFail rest) : p.AllFail (call :: rest) := by
  intro earlier other later split
  cases earlier with
  | nil =>
      cases split
      exact rejects
  | cons first earlier =>
      cases split
      exact fail earlier other later rfl

theorem latest_cons {p q : Program} {call : Reload} {rest : List Reload}
    (latest : (p.reload call).program.Latest rest q) : p.Latest (call :: rest) q := by
  cases latest with
  | start calls fail =>
      by_cases accepts : p.Accepts call
      · exact .accepted [] call rest accepts fail
      · rw [reload_of_rejected p call accepts]
        exact .start (call :: rest) (allFail_cons accepts fail)
  | accepted earlier other later accepts fail =>
      exact .accepted (call :: earlier) other later accepts fail

theorem latest_reloads (p : Program) (calls : List Reload) : p.Latest calls (p.reloads calls) := by
  induction calls generalizing p with
  | nil =>
      refine .start [] fun earlier call later split => ?_
      cases earlier <;> cases split
  | cons call rest ih => exact latest_cons (ih (p.reload call).program)

/-- Loading is all or nothing. After any calls the program is the one of the last call that
succeeded. A call that fails changes nothing; a manifest is loaded exactly when all of its entries
are operations, and then the program holds all of them; and a bundle is loaded exactly when such a
manifest can be read from it, with the effect of loading that. -/
theorem reloads_all_or_nothing (calls : List Reload) :
    ({} : Program).Latest calls (({} : Program).reloads calls) ∧
    ∀ p : Program,
      (∀ call, ¬ p.Accepts call → (p.reload call).program = p) ∧
      (∀ document, p.Accepts (.manifest document) ↔ IsManifest document) ∧
      (∀ document, p.Accepts (.manifest document) →
        LoadedFrom document (p.reload (.manifest document)).program) ∧
      (∀ setting path, p.Accepts (.bundle setting path) ↔
        ∃ document, Contains setting path document ∧ IsManifest document) ∧
      ∀ setting path document, Contains setting path document →
        (p.reload (.bundle setting path)).program = (p.reload (.manifest document)).program := by
  refine ⟨latest_reloads {} calls, fun p => ⟨reload_of_rejected p, accepts_manifest_iff p, ?_,
    accepts_bundle_iff p, ?_⟩⟩
  · intro document accepts
    exact (reload_manifest_accepted p document ((accepts_manifest_iff p document).mp accepts)).2
  · intro setting path document contains
    exact (reload_bundle_of_contains p setting path document contains).2

end TensorBundle.Program

namespace TensorBundle

namespace Utf8

theorem decodeFrom_ascii {bytes : List UInt8} (ascii : ∀ b ∈ bytes, b.toNat < 0x80) (offset : Nat)
    (done : Text) : decodeFrom offset none done bytes =
      .ok (done.reverse ++ bytes.map fun b => Code.ofNat b.toNat) := by
  induction bytes generalizing offset done with
  | nil => rw [decodeFrom, List.map_nil, List.append_nil]
  | cons b bytes ih =>
      obtain ⟨small, others⟩ := List.forall_mem_cons.mp ascii
      rw [decodeFrom, if_pos small, ih others]
      simp only [List.reverse_cons, List.append_assoc, List.singleton_append, List.map_cons]

theorem decode_ascii {bytes : List UInt8} (ascii : ∀ b ∈ bytes, b.toNat < 0x80) :
    decode bytes = .ok (bytes.map fun b => Code.ofNat b.toNat) := decodeFrom_ascii ascii 0 []

end Utf8

def BundleError.IsConfiguration (e : BundleError) : Prop :=
  ∃ problem key value operation, e = .configuration problem key value operation

namespace Operation

theorem namesOfEntry_configuration {type key : Text} {members : List (Text × Json)}
    {e : BundleError} (failed : namesOfEntry type key members = .error e) : e.IsConfiguration := by
  unfold namesOfEntry at failed
  split at failed
  · cases failed
  · dsimp only at failed
    split at failed <;> cases failed
    exact ⟨_, _, _, _, rfl⟩

theorem ofJson_configuration {entry : Json} {e : BundleError} (failed : ofJson entry = .error e) :
    e.IsConfiguration := by
  unfold ofJson at failed
  split at failed
  · split at failed
    · rcases bind_eq_error failed with failed | ⟨inputs, _, failed⟩
      · exact namesOfEntry_configuration failed
      rcases bind_eq_error failed with failed | ⟨outputs, _, failed⟩
      · exact namesOfEntry_configuration failed
      · cases failed
    · cases failed
      exact ⟨_, _, _, _, rfl⟩
  · cases failed
    exact ⟨_, _, _, _, rfl⟩

end Operation

namespace Program

theorem ofManifest_configuration {document : Json} {e : BundleError}
    (failed : ofManifest document = .error e) : e.IsConfiguration := by
  rcases bind_eq_error failed with failed | ⟨operations, _, failed⟩
  · unfold operationsOf at failed
    dsimp only at failed
    split at failed
    · obtain ⟨entry, _, failed⟩ := exists_of_mapM_error failed
      exact Operation.ofJson_configuration failed
    · cases failed
      exact ⟨_, _, _, _, rfl⟩
  · cases failed

/-- How loading a bundle can end; `other` is any status and any error besides these. -/
inductive Ending where
  | loaded
  | notFound
  | unreadable
  | misconfigured
  | escaped (fault : Fault)
  | other

def ending : Except Failure Status → Ending
  | .ok status =>
      if status = .success then .loaded else if status.code = .notFound then .notFound else .other
  | .error (.error (.configuration ..)) => .misconfigured
  | .error (.error (.resource ..)) => .unreadable
  | .error (.error _) => .other
  | .error (.fault fault) => .escaped fault

/-- When loading a bundle ends in which way; no case leads to `other`. -/
inductive EndsIn (setting : Setting) (bundle : Text) : Ending → Prop where
  | unnamable (fault : Fault)
      (noPath : Path.fault? (manifestPath setting.config bundle) = some fault) :
      EndsIn setting bundle (.escaped fault)
  | notFound (e : OpenError) (namable : Path.fault? (manifestPath setting.config bundle) = none)
      (closed : setting.files.bytes (manifestPath setting.config bundle) = .error e)
      (lenient : setting.config.strictManifest = false) : EndsIn setting bundle .notFound
  | unreadable (e : OpenError) (namable : Path.fault? (manifestPath setting.config bundle) = none)
      (closed : setting.files.bytes (manifestPath setting.config bundle) = .error e)
      (strict : setting.config.strictManifest = true) : EndsIn setting bundle .unreadable
  | loaded (document : Json) (contains : Contains setting bundle document)
      (valid : IsManifest document) : EndsIn setting bundle .loaded
  | misconfigured (bytes : List UInt8)
      (namable : Path.fault? (manifestPath setting.config bundle) = none)
      (opened : setting.files.bytes (manifestPath setting.config bundle) = .ok bytes)
      (useless : ∀ document, Contains setting bundle document → ¬ IsManifest document)
      (short : ∀ text count, Utf8.decode bytes = .ok text →
        Json.read text ≠ .error (.tooManyDigits count)) :
      EndsIn setting bundle .misconfigured
  | overlong (bytes : List UInt8) (text : Text) (count : Nat)
      (namable : Path.fault? (manifestPath setting.config bundle) = none)
      (opened : setting.files.bytes (manifestPath setting.config bundle) = .ok bytes)
      (decoded : Utf8.decode bytes = .ok text)
      (refused : Json.read text = .error (.tooManyDigits count))
      (long : Json.LongRun text count) : EndsIn setting bundle (.escaped (.tooManyDigits count))

section Ending
variable {setting : Setting} {bundle : Text}

theorem exists_endsIn (setting : Setting) (bundle : Text) : ∃ e, EndsIn setting bundle e := by
  cases namable : Path.fault? (manifestPath setting.config bundle) with
  | some fault => exact ⟨_, .unnamable fault namable⟩
  | none =>
      cases opened : setting.files.bytes (manifestPath setting.config bundle) with
      | error e =>
          cases policy : setting.config.strictManifest with
          | true => exact ⟨_, .unreadable e namable opened policy⟩
          | false => exact ⟨_, .notFound e namable opened policy⟩
      | ok bytes =>
          by_cases usable : ∃ document, Contains setting bundle document ∧ IsManifest document
          · obtain ⟨document, contains, valid⟩ := usable
            exact ⟨_, .loaded document contains valid⟩
          by_cases refused : ∃ text count, Utf8.decode bytes = .ok text ∧
              Json.read text = .error (.tooManyDigits count)
          · obtain ⟨text, count, decoded, failed⟩ := refused
            exact ⟨_, .overlong bytes text count namable opened decoded failed
              (Json.longRun_of_read failed)⟩
          · refine ⟨_, .misconfigured bytes namable opened ?_ ?_⟩
            · intro document contains valid
              exact usable ⟨document, contains, valid⟩
            · intro text count decoded failed
              exact refused ⟨text, count, decoded, failed⟩

theorem ending_of_configuration {e : BundleError} (configuration : e.IsConfiguration) :
    ending (.error (.error e)) = .misconfigured := by
  obtain ⟨problem, key, value, operation, rfl⟩ := configuration
  rfl

theorem ofBytes_configuration {bytes : List UInt8}
    (namable : Path.fault? (manifestPath setting.config bundle) = none)
    (opened : setting.files.bytes (manifestPath setting.config bundle) = .ok bytes)
    (useless : ∀ document, Contains setting bundle document → ¬ IsManifest document)
    (short : ∀ text count, Utf8.decode bytes = .ok text →
      Json.read text ≠ .error (.tooManyDigits count)) (path : Text) :
    ∃ e, e.IsConfiguration ∧ ofBytes path bytes = .error (.error e) := by
  unfold ofBytes
  cases decoded : Utf8.decode bytes with
  | error fault => exact ⟨_, ⟨_, _, _, _, rfl⟩, rfl⟩
  | ok text =>
      cases parsed : Json.read text with
      | error fault =>
          cases fault with
          | malformed problem offset =>
              refine ⟨.configuration (.notJson problem.message (Json.lineOf text offset))
                (some path) none none, ⟨_, _, _, _, rfl⟩, ?_⟩
              simp only [parsed]
          | tooManyDigits count => exact absurd parsed (short text count decoded)
      | ok document =>
          cases made : ofManifest document with
          | error e => exact ⟨e, ofManifest_configuration made, by simp only [parsed, made]; rfl⟩
          | ok loaded =>
              have valid : IsManifest document := (exists_loadedFrom_iff document).mp
                ⟨loaded, (ofManifest_eq_ok_iff document loaded).mp made⟩
              exact absurd valid (useless document ⟨namable, bytes, text, opened, decoded, parsed⟩)

theorem ending_of_endsIn (p : Program) {e : Ending} (ends : EndsIn setting bundle e) :
    ending (p.load setting bundle).result = e := by
  cases ends with
  | unnamable fault noPath => simp only [load, noPath, ending]
  | notFound problem namable closed lenient =>
      simp only [load, namable, closed, lenient, Bool.false_eq_true, if_false]
      rfl
  | unreadable problem namable closed strict =>
      simp only [load, namable, closed, strict, if_true, ending]
  | loaded document contains valid =>
      obtain ⟨namable, bytes, text, opened, decoded, parsed⟩ := contains
      obtain ⟨loaded, fits⟩ := (exists_loadedFrom_iff document).mpr valid
      have made := (ofManifest_eq_ok_iff document loaded).mpr fits
      simp only [load, namable, opened, ofBytes, decoded, parsed, made]
      rfl
  | misconfigured bytes namable opened useless short =>
      obtain ⟨e, configuration, failed⟩ := ofBytes_configuration namable opened useless short
        (manifestPath setting.config bundle)
      simp only [load, namable, opened, failed, ending_of_configuration configuration]
  | overlong bytes text count namable opened decoded refused long =>
      simp only [load, namable, opened, ofBytes, decoded, refused, ending]

/-- Loading a bundle ends in the one way that the path, the contents of the manifest and the policy
give: never in an error of another kind, and in a fault only for a text that is no path and for an
integer of too many digits. -/
theorem load_ends_iff (p : Program) (setting : Setting) (bundle : Text) (e : Ending) :
    ending (p.load setting bundle).result = e ↔ EndsIn setting bundle e := by
  constructor
  · rintro rfl
    obtain ⟨e, ends⟩ := exists_endsIn setting bundle
    rw [ending_of_endsIn p ends]
    exact ends
  · exact ending_of_endsIn p

theorem load_number (p : Program) (config : Config) {bundle : Text} {count : Nat}
    (namable : Path.fault? (manifestPath config bundle) = none) (long : Text.digitLimit < count) :
    (p.load ⟨config, .ofContents fun _ => .ok (List.replicate count 0x31)⟩ bundle).result =
      .error (.fault (.tooManyDigits count)) := by
  have decoded : Utf8.decode (List.replicate count 0x31) =
      .ok (List.replicate count (Code.ofNat 0x31)) := by
    rw [Utf8.decode_ascii, List.map_replicate]
    · rfl
    · intro b member
      rw [List.eq_of_mem_replicate member]
      decide
  have refused : Json.read (List.replicate count (Code.ofNat 0x31)) =
      .error (.tooManyDigits count) := by
    rw [← List.length_replicate (n := count) (a := Code.ofNat 0x31)] at long
    cases count with
    | zero => exact absurd long (Nat.not_lt_zero _)
    | succ count =>
        rw [List.replicate_succ] at long ⊢
        rw [Json.read_of_digits (by decide) _ long, List.length_cons, List.length_replicate]
        intro d member
        rw [List.eq_of_mem_replicate member]
        decide
  simp only [load, namable, Files.bytes_ofContents, ofBytes, decoded, refused]

/-- A manifest of 4301 digits is opened and yet is not answered with an error in what it says, and a
bundle whose name has a NUL character in it is not said to be unopened. -/
theorem load_overlong :
    (({} : Program).load ⟨{}, .ofContents fun _ => .ok (List.replicate 4301 0x31)⟩ "b").result =
        .error (.fault (.tooManyDigits 4301)) ∧
      (({} : Program).load
        ⟨{}, .ofContents fun _ => .error .notFound⟩ (Code.ofNat 0 :: "b")).result =
        .error (.fault .embeddedNul) := by
  constructor
  · apply load_number
    · decide
    · decide
  · rfl

end Ending

end Program
end TensorBundle

namespace TensorBundle.Program

instance (p : Program) (call : Reload) : Decidable (p.Accepts call) :=
  inferInstanceAs (Decidable (Succeeds (p.reload call).result))

theorem legible_of_accepts {start : Program} {setting : Setting} {bundle : Text}
    (accepts : start.Accepts (.bundle setting bundle)) :
    ∃ document, LoadedFrom document (start.load setting bundle).program ∧
      Json.Legible Text.Joined document := by
  obtain ⟨document, contains, valid⟩ := (accepts_bundle_iff start setting bundle).mp accepts
  have same := (reload_bundle_of_contains start setting bundle document contains).2
  have loaded := (reload_manifest_accepted start document valid).2
  obtain ⟨_, bytes, text, _, decoded, parsed⟩ := contains
  have clean := Utf8.decode_noSurrogate decoded
  refine ⟨document, ?_, Json.legible_of_read Json.spells_joined clean parsed⟩
  rw [← same] at loaded
  exact loaded

/-- A program that was loaded from a bundle and whose manifest has integers for numbers can be
dumped at any indent: what is read back from the dump is the manifest, and loading it into whatever
program succeeds and gives the program that was dumped. -/
theorem dump_reloads {start : Program} {setting : Setting} {bundle : Text}
    (accepts : start.Accepts (.bundle setting bundle))
    (integral : (start.load setting bundle).program.source.isIntegral = true)
    (indent : Option Nat) :
    let p := (start.load setting bundle).program
    Json.read (p.dump indent) = .ok p.source ∧
      ∀ q : Program, q.loadManifest p.source = (.ok (), p) := by
  intro p
  obtain ⟨document, loaded, legible⟩ := legible_of_accepts accepts
  have source : p.source = document := loaded.source
  constructor
  · exact Json.read_print indent (source ▸ legible) integral
  · intro q
    have made : ofManifest p.source = .ok p := by
      rw [source]
      exact (ofManifest_eq_ok_iff document p).mpr loaded
    rw [loadManifest, made]

/-- A manifest with the escapes of a pair of surrogates and of half of one, an empty object and a
name that is bound twice. -/
theorem dump_reloads_nested :
    let text : Text := ("\x7b\"a\": 1, \"operations\": [\x7b\"type\": \"Load\"\x7d]," : Text) ++
      "\"b\": [-12, \"\\ud83d\\ude00\\n\\udc00\", \x7b\x7d], \"a\": true\x7d"
    let setting : Setting := ⟨{}, .ofContents fun _ => .ok (text.map fun c => UInt8.ofNat c.val)⟩
    let p := (({} : Program).load setting "b").program
    p.dump none = ("\x7b\"a\": true, \"operations\": [\x7b\"type\": \"Load\"\x7d], " : Text) ++
        "\"b\": [-12, \"\\ud83d\\ude00\\n\\udc00\", \x7b\x7d]\x7d" ∧
      Json.read (p.dump (some 2)) = .ok p.source ∧
      ({} : Program).loadManifest p.source = (.ok (), p) := by
  intro text setting p
  have accepts : ({} : Program).Accepts (.bundle setting "b") := by decide +kernel
  have integral : p.source.isIntegral = true := by decide +kernel
  obtain ⟨read, loads⟩ := dump_reloads accepts integral (some 2)
  exact ⟨by decide +kernel, read, loads {}⟩

end TensorBundle.Program
