import Mathlib
import TensorBundle.FileTree
import TensorBundle.Proofs.Session.Consistency
/-!
Operations that end in an error: what they leave behind, and what they report. The workspace is as
it was, or it is without the output. The error is one for an argument, for want of memory, or,
under the strict policy alone, for a file.
-/
namespace TensorBundle

namespace Workspace

/-- A failure for want of memory for a tensor of some type and shape under a name. -/
def LacksMemory (ws : Workspace) (name : Text) (failure : Failure) : Prop :=
  ∃ type shape, Tensor.canAllocate ws.available.tensor type shape = false ∧
    failure = allocationFailure name type shape

theorem obtained_failed {name : Text} {type : DataType} {shape : Shape} {before after : Workspace}
    {failure : Failure} (obtained : Obtained name type shape before (.error failure) after) :
    after.number? name = none ∧ before.LacksMemory name failure := by
  cases obtained with
  | refused missing full =>
      constructor
      · exact number_remove_self before name
      · exact ⟨type, shape, full, rfl⟩

end Workspace

namespace Handler

theorem stored_failed {name : Text} {t : Tensor} {before after : Workspace} {failure : Failure}
    (stored : Stored name t before (.error failure) after) :
    after.number? name = none ∧ before.LacksMemory name failure := by
  cases stored with
  | refused missing full =>
      constructor
      · exact Workspace.number_remove_self before name
      · exact ⟨t.type, t.shape, full, rfl⟩

theorem error_of_map {α β : Type} {result : Except Failure α} {f : α → β} {e : Failure}
    (failed : result.map f = .error e) : result = .error e := by
  cases result with
  | error other =>
      cases failed
      rfl
  | ok a => cases failed

/-- The file of a tensor has fewer bytes than the tensor, which the strict policy does not allow. -/
def EndsShort (setting : Setting) (op : Operation) (ws : Workspace) (e : BundleError) : Prop :=
  ∃ r bytes, LoadRequest.ofOperation op = .ok r ∧ setting.config.strictResources = true ∧
    setting.files.bytes (ws.resolve r.file) = .ok bytes ∧
    bytes.length < Tensor.byteCount r.type r.shape ∧
    e = .resource (.tensorTooShort r.name) (some (ws.resolve r.file))
      (some (Tensor.byteCount r.type r.shape)) (some (bytes.length : Nat))

/-- What there can be of an operation that has ended in an error. -/
inductive LeftBy (short : Prop) (op : Operation) (ws : Workspace) (e : BundleError) :
    Workspace → Prop where
  | untouched : LeftBy short op ws e ws
  | dropped (name : Text) (after : Workspace) (named : op.outputs.head? = some name)
      (absent : after.number? name = none) (cause : short ∨ ws.LacksMemory name (.error e)) :
      LeftBy short op ws e after

theorem leftBy_mono {short other : Prop} (weaker : short → other) {op : Operation}
    {before after : Workspace} {e : BundleError} (left : LeftBy short op before e after) :
    LeftBy other op before e after := by
  cases left with
  | untouched => exact .untouched
  | dropped name after named absent cause =>
      exact .dropped name after named absent (cause.imp_left weaker)

section Failing
variable {setting : Setting} {op : Operation} {ws : Workspace} {e : BundleError}

theorem load_failed (orderly : ws.Orderly)
    (failed : (load setting op ws).result = .error (.error e)) :
    LeftBy (EndsShort setting op ws e) op ws e (load setting op ws).workspace := by
  have loaded := load_loaded setting op ws
  rw [failed] at loaded
  generalize ended : (Except.error (Failure.error e) : Except Failure (Option Status)) = result,
    (load setting op ws).workspace = after at loaded ⊢
  cases loaded with
  | malformed => exact .untouched
  | kept => cases ended
  | unnamable => cases ended
  | unopened => exact .untouched
  | blank r problem result after request asks closed lenient obtained =>
      have refused := error_of_map ended.symm
      subst refused
      obtain ⟨absent, full⟩ := Workspace.obtained_failed obtained
      exact .dropped r.name after (LoadRequest.head_outputs request) absent (Or.inr full)
  | refused r bytes failure after request asks opened obtained =>
      cases ended
      obtain ⟨absent, full⟩ := Workspace.obtained_failed obtained
      exact .dropped r.name after (LoadRequest.head_outputs request) absent (Or.inr full)
  | unviewable => cases ended
  | filled => cases ended
  | short => cases ended
  | withdrawn r bytes id between old request asks opened obtained held viewable cut strict =>
      cases ended
      -- The tensor has all its bytes, so it is the file that is short.
      have whole : old.bytes.length = Tensor.byteCount r.type r.shape := by
        obtain ⟨_, t, holding, type, shape⟩ := Workspace.obtained_holds obtained
        rw [held] at holding
        cases holding
        rw [← type, ← shape]
        exact (Workspace.effect_orderly (Workspace.obtained_effect obtained) orderly).complete id
          old held
      have fewer : bytes.length < Tensor.byteCount r.type r.shape := by omega
      apply LeftBy.dropped r.name _ (LoadRequest.head_outputs request)
      · exact Workspace.number_remove_self _ r.name
      · left
        refine ⟨r, bytes, request, strict, opened, fewer, ?_⟩
        rw [whole, min_eq_right fewer.le]

theorem loadImage_failed (failed : (loadImage setting op ws).result = .error (.error e)) :
    LeftBy False op ws e (loadImage setting op ws).workspace := by
  have pictured := loadImage_pictured setting op ws
  rw [failed] at pictured
  generalize ended : (Except.error (Failure.error e) : Except Failure (Option Status)) = result,
    (loadImage setting op ws).workspace = after at pictured ⊢
  cases pictured with
  | malformed => exact .untouched
  | kept => cases ended
  | unnamable => cases ended
  | undecodable => cases ended
  | unreadable => exact .untouched
  | ignored => cases ended
  | decoded r image result after request asks whole stored =>
      have refused := error_of_map ended.symm
      subst refused
      obtain ⟨absent, full⟩ := stored_failed stored
      exact .dropped r.name after (ImageRequest.head_outputs request) absent (Or.inr full)

theorem convolution_failed (failed : (convolution setting op ws).result = .error (.error e)) :
    LeftBy False op ws e (convolution setting op ws).workspace := by
  obtain ⟨ended, left⟩ := Prod.ext_iff.mp (convolution_run setting op ws)
  have found := convolved_convolved op ws
  dsimp only at ended left
  rw [failed] at ended
  generalize (convolved op ws).result = result at ended left found
  cases found with
  | rejected => exact left ▸ .untouched
  | unworded => exact left ▸ .untouched
  | cramped => exact left ▸ .untouched
  | tooLarge => exact left ▸ .untouched
  | unnamed => exact left ▸ .untouched
  | done x filters bias g name y prepared room fits named =>
      have stored := store_stored name y ws
      rw [error_of_map ended.symm] at stored
      obtain ⟨absent, full⟩ := stored_failed stored
      rw [left]
      exact .dropped name _ ((op.output_zero_iff name).mp named) absent (Or.inr full)

end Failing

end Handler

namespace BuiltIn

theorem work_leftBy {ws : Workspace} (orderly : ws.Orderly) (handler : BuiltIn)
    (setting : Setting) (op : Operation) (e : BundleError)
    (failed : (handler.work setting op ws).result = .error (.error e)) :
    Handler.LeftBy (handler = .load ∧ Handler.EndsShort setting op ws e) op ws e
      (handler.work setting op ws).workspace := by
  cases handler with
  | load =>
      apply Handler.leftBy_mono _ (Handler.load_failed orderly failed)
      intro short
      exact ⟨rfl, short⟩
  | loadImage => exact Handler.leftBy_mono False.elim (Handler.loadImage_failed failed)
  | convolution =>
      have failed : (Handler.convolution setting op ws).result = .error (.error e) := failed
      exact Handler.leftBy_mono False.elim (Handler.convolution_failed failed)

/-- An operation of the library that ends in an error leaves every other entry as it was. Its output
is as it was too, or is not stored any more and its handle is empty; that happens only if the file
of a tensor is too short under the strict policy, or if there is no memory. -/
theorem work_failed {ws : Workspace} (reachable : ws.Reachable) (handler : BuiltIn)
    (setting : Setting) (op : Operation) (e : BundleError)
    (failed : (handler.work setting op ws).result = .error (.error e)) :
    (∀ name, op.outputs.head? ≠ some name →
      ws.KeepsEntry name (handler.work setting op ws).workspace) ∧
    ((handler.work setting op ws).workspace = ws ∨
      ∃ name, op.outputs.head? = some name ∧
        ws.DropsEntry name (handler.work setting op ws).workspace ∧
        ((handler = .load ∧ Handler.EndsShort setting op ws e) ∨
          ws.LacksMemory name (.error e))) := by
  have orderly := Workspace.orderly_of_reachable reachable
  have effect := handler.work_outputEffect setting op ws
  have left := handler.work_leftBy orderly setting op e failed
  constructor
  · intro name other
    exact Handler.outputEffect_keepsEntry effect orderly other
  · generalize (handler.work setting op ws).workspace = after at effect left
    cases left with
    | untouched => exact Or.inl rfl
    | dropped name after named absent cause =>
        rcases effect with same | ⟨output, isOutput, changed⟩
        · exact Or.inl same
        · rw [named] at isOutput
          cases isOutput
          exact Or.inr ⟨name, named, Workspace.dropsEntry_of_effect changed orderly absent, cause⟩

/-- A tensor is there already, and the file that it is loaded from again has half of its bytes. -/
theorem work_failed_half :
    let ws := ((Session.start [] []).moves
      [.call (.get "x" (some .float32) (some (.array [.int 1])))]).workspace
    let setting : Setting := ⟨{ forceReload := true }, .ofContents fun _ => .ok [0, 0]⟩
    let op : Operation :=
      { type := "Load", outputs := ["x"],
        fields := [("fileName", .text "x.bin"), ("dataType", .text "single"),
          ("shape", .array [.int 1])] }
    let after := (BuiltIn.load.work setting op ws).workspace
    ws.Reachable ∧ ws.content? "x" = some (.holding ⟨.float32, [1], [0, 0, 0, 0]⟩) ∧
      (BuiltIn.load.work setting op ws).result =
        .error (.error (.resource (.tensorTooShort "x") (some "x.bin") (some 4) (some 2))) ∧
      ws.DropsEntry "x" after := by
  intro ws setting op after
  have reachable : ws.Reachable := ⟨[], [], _, rfl⟩
  have failed : (BuiltIn.load.work setting op ws).result =
      .error (.error (.resource (.tensorTooShort "x") (some "x.bin") (some 4) (some 2))) := by
    cbv
  have stored : ws.number? "x" = some 0 := by decide +kernel
  have gone : after.number? "x" = none := by decide +kernel
  rcases (work_failed reachable .load setting op _ failed).2 with same | ⟨name, named, drops, _⟩
  · rw [← same] at stored
    change after.number? "x" = some 0 at stored
    rw [gone] at stored
    cases stored
  · cases named
    exact ⟨reachable, by decide +kernel, failed, drops⟩

end BuiltIn

namespace Operation
variable {op : Operation} {key : Text} {default : Option Json} {e : BundleError}

theorem nameAt_rejected {names : List Text} {index : Int}
    {tooFew : Int → Int → ConfigurationProblem}
    (failed : op.nameAt names index key tooFew = .error (.error e)) :
    e.isRejection = true := by
  unfold nameAt at failed
  split at failed
  · obtain ⟨rfl, _⟩ := (BundleError.raised_eq_error_iff _ e).mp (Except.error.inj failed)
    rfl
  · dsimp only at failed
    split at failed <;> cases failed

theorem getText_rejected (failed : op.getText key default = .error e) :
    e.isRejection = true := by
  rcases bind_eq_error failed with failed | ⟨value, _, failed⟩
  · exact Handler.require_rejected failed
  · split at failed <;> cases failed
    rfl

theorem getDataType_rejected (failed : op.getDataType key default = .error e) :
    e.isRejection = true := by
  rcases bind_eq_error failed with failed | ⟨name, _, failed⟩
  · exact getText_rejected failed
  · split at failed <;> cases failed
    rfl

theorem getShape_rejected (failed : op.getShape key = .error e) : e.isRejection = true := by
  rcases bind_eq_error failed with failed | ⟨dimensions, _, failed⟩
  · exact Handler.getInts_rejected failed
  · split at failed <;> cases failed
    rfl

theorem error_of_raised {α : Type} {checked : Except BundleError α}
    (failed : checked.mapError BundleError.raised = .error (.error e)) : checked = .error e :=
  ((mapError_raised_eq_error_iff e).mp failed).1

theorem getNumbers_rejected (failed : op.getNumbers key default = .error (.error e)) :
    e.isRejection = true := by
  rcases bind_eq_error failed with failed | ⟨value, _, failed⟩
  · exact Handler.require_rejected (error_of_raised failed)
  · dsimp only at failed
    split at failed
    · rename_i numbers found
      -- A number that is out of range is a fault and no error.
      generalize numbers.mapM id = read at failed
      cases read <;> cases failed
    · obtain ⟨rfl, _⟩ := (BundleError.raised_eq_error_iff _ e).mp (Except.error.inj failed)
      rfl

end Operation

namespace Workspace

theorem code_of_lacksMemory {ws : Workspace} {name : Text} {e : BundleError}
    (lacks : ws.LacksMemory name (.error e)) : e.code = .outOfMemory := by
  obtain ⟨type, shape, _, same⟩ := lacks
  by_cases written : ∀ d ∈ shape, Text.isWritable d = true
  · rw [allocationFailure_of_written name type written] at same
    cases counted : BundleError.megabytes? (Tensor.byteCount type shape) with
    | none =>
        rw [counted] at same
        cases same
    | some text =>
        rw [counted] at same
        cases same
        rfl
  · have unwritten : ∃ d ∈ shape, Text.isWritable d = false := by simpa using written
    rw [allocationFailure_of_unwritten name type unwritten] at same
    cases same

end Workspace

namespace Handler

theorem LoadRequest.rejected {op : Operation} {e : BundleError}
    (failed : LoadRequest.ofOperation op = .error (.error e)) : e.isRejection = true := by
  rcases bind_eq_error failed with failed | ⟨name, _, failed⟩
  · exact Operation.nameAt_rejected failed
  rcases bind_eq_error failed with failed | ⟨file, _, failed⟩
  · exact Operation.getText_rejected (Operation.error_of_raised failed)
  rcases bind_eq_error failed with failed | ⟨type, _, failed⟩
  · exact Operation.getDataType_rejected (Operation.error_of_raised failed)
  rcases bind_eq_error failed with failed | ⟨shape, _, failed⟩
  · exact Operation.getShape_rejected (Operation.error_of_raised failed)
  · cases failed

theorem ImageRequest.rejected {op : Operation} {e : BundleError}
    (failed : ImageRequest.ofOperation op = .error (.error e)) : e.isRejection = true := by
  rcases bind_eq_error failed with failed | ⟨name, _, failed⟩
  · exact Operation.nameAt_rejected failed
  rcases bind_eq_error failed with failed | ⟨file, _, failed⟩
  · exact Operation.getText_rejected (Operation.error_of_raised failed)
  rcases bind_eq_error failed with failed | ⟨type, _, failed⟩
  · exact Operation.getDataType_rejected (Operation.error_of_raised failed)
  split at failed
  · rcases bind_eq_error failed with failed | ⟨average, _, failed⟩
    · exact Operation.getNumbers_rejected failed
    · split at failed <;> cases failed
      rfl
  · cases failed

/-- The codes of the errors that a handler of the library can end in. -/
inductive ErrorCode (config : Config) : StatusCode → Prop where
  | argument : ErrorCode config .invalidArgument
  | memory : ErrorCode config .outOfMemory
  | file (strict : config.strictResources = true) : ErrorCode config .notFound

section ErrorCode
variable {config : Config} {e : BundleError}

theorem errorCode_of_isRejection (rejection : e.isRejection = true) : ErrorCode config e.code := by
  rw [BundleError.code_of_isRejection rejection]
  exact .argument

theorem errorCode_of_lacksMemory {ws : Workspace} {name : Text}
    (lacks : ws.LacksMemory name (.error e)) : ErrorCode config e.code := by
  rw [Workspace.code_of_lacksMemory lacks]
  exact .memory

end ErrorCode

section Answer
variable {setting : Setting} {op : Operation} {ws : Workspace} {e : BundleError}

theorem answer_of_map {α : Type} {result : Except Failure α} {answer : Option Status}
    (done : (result.map fun _ => some Status.success) = .ok answer) : answer = some .success := by
  cases result with
  | error failure => cases done
  | ok a =>
      cases done
      rfl

theorem load_answer {answer : Option Status} (done : (load setting op ws).result = .ok answer) :
    answer = some .success := by
  have loaded := load_loaded setting op ws
  rw [done] at loaded
  generalize ended : (Except.ok answer : Except Failure (Option Status)) = result,
    (load setting op ws).workspace = after at loaded
  cases loaded with
  | malformed | unnamable | unopened | refused | unviewable | withdrawn => cases ended
  | kept | filled | short =>
      cases ended
      rfl
  | blank => exact answer_of_map ended.symm

theorem loadImage_answer {answer : Option Status}
    (done : (loadImage setting op ws).result = .ok answer) : answer = some .success := by
  have pictured := loadImage_pictured setting op ws
  rw [done] at pictured
  generalize ended : (Except.ok answer : Except Failure (Option Status)) = result,
    (loadImage setting op ws).workspace = after at pictured
  cases pictured with
  | malformed | unnamable | undecodable | unreadable => cases ended
  | kept | ignored =>
      cases ended
      rfl
  | decoded => exact answer_of_map ended.symm

theorem convolution_answer {answer : Option Status}
    (done : (convolution setting op ws).result = .ok answer) : answer = some .success := by
  have run := (Prod.ext_iff.mp (convolution_run setting op ws)).1
  dsimp only at run
  rw [done] at run
  cases found : (convolved op ws).result with
  | error failure =>
      rw [found] at run
      cases run
  | ok value =>
      rw [found] at run
      exact answer_of_map run.symm

theorem load_errorCode (failed : (load setting op ws).result = .error (.error e)) :
    ErrorCode setting.config e.code := by
  have loaded := load_loaded setting op ws
  rw [failed] at loaded
  generalize ended : (Except.error (Failure.error e) : Except Failure (Option Status)) = result,
    (load setting op ws).workspace = after at loaded
  cases loaded with
  | malformed failure bad =>
      cases ended
      exact errorCode_of_isRejection (LoadRequest.rejected bad)
  | kept | unnamable | unviewable | filled | short => cases ended
  | unopened r problem request asks closed strict =>
      cases ended
      exact .file strict
  | blank r problem result after request asks closed lenient obtained =>
      have refused := error_of_map ended.symm
      subst refused
      exact errorCode_of_lacksMemory (Workspace.obtained_failed obtained).2
  | refused r bytes failure after request asks opened obtained =>
      cases ended
      exact errorCode_of_lacksMemory (Workspace.obtained_failed obtained).2
  | withdrawn r bytes id between old request asks opened obtained held viewable cut strict =>
      cases ended
      exact .file strict

theorem loadImage_errorCode (failed : (loadImage setting op ws).result = .error (.error e)) :
    ErrorCode setting.config e.code := by
  have pictured := loadImage_pictured setting op ws
  rw [failed] at pictured
  generalize ended : (Except.error (Failure.error e) : Except Failure (Option Status)) = result,
    (loadImage setting op ws).workspace = after at pictured
  cases pictured with
  | malformed failure bad =>
      cases ended
      exact errorCode_of_isRejection (ImageRequest.rejected bad)
  | kept | unnamable | undecodable | ignored => cases ended
  | unreadable r problem request asks broken strict =>
      cases ended
      exact .file strict
  | decoded r image result after request asks whole stored =>
      have refused := error_of_map ended.symm
      subst refused
      exact errorCode_of_lacksMemory (stored_failed stored).2

theorem convolution_errorCode (failed : (convolution setting op ws).result = .error (.error e)) :
    ErrorCode setting.config e.code := by
  have run := (Prod.ext_iff.mp (convolution_run setting op ws)).1
  have found := convolved_convolved op ws
  dsimp only at run
  rw [failed] at run
  generalize (convolved op ws).result = result at run found
  cases found with
  | rejected problem rejection =>
      cases run
      exact errorCode_of_isRejection rejection
  | cramped => cases run
  | unworded => cases run
  | tooLarge x filters bias g problem prepared room misfit rejection =>
      cases run
      exact errorCode_of_isRejection rejection
  | unnamed x filters bias g y problem prepared room fits nameless rejection =>
      cases run
      exact errorCode_of_isRejection rejection
  | done x filters bias g name y prepared room fits named =>
      have stored := store_stored name y ws
      rw [error_of_map run.symm] at stored
      exact errorCode_of_lacksMemory (stored_failed stored).2

end Answer

end Handler

namespace BuiltIn
variable {setting : Setting} {op : Operation} {ws : Workspace}

theorem work_answer (b : BuiltIn) {answer : Option Status}
    (done : (b.work setting op ws).result = .ok answer) : answer = some .success := by
  cases b with
  | load => exact Handler.load_answer done
  | loadImage => exact Handler.loadImage_answer done
  | convolution =>
      change (Handler.convolution setting op ws).result = .ok answer at done
      exact Handler.convolution_answer done

theorem work_errorCode (b : BuiltIn) {e : BundleError}
    (failed : (b.work setting op ws).result = .error (.error e)) :
    Handler.ErrorCode setting.config e.code := by
  cases b with
  | load => exact Handler.load_errorCode failed
  | loadImage => exact Handler.loadImage_errorCode failed
  | convolution => exact Handler.convolution_errorCode failed

end BuiltIn

end TensorBundle
