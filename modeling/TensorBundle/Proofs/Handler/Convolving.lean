import Mathlib
import TensorBundle.Handler
import TensorBundle.Proofs.Handler.Loading
/-!
All that a convolution can come to before its result is stored. Nothing is written up to there.
-/
namespace TensorBundle

namespace BundleError

/-- Errors of an operation or of the tensors that it was given. -/
def isRejection : BundleError → Bool
  | .configuration .. => true
  | .validation .. => true
  | _ => false

theorem code_of_isRejection {e : BundleError} (rejection : e.isRejection = true) :
    e.code = .invalidArgument := by
  cases e with
  | configuration => rfl
  | validation => rfl
  | general => cases rejection
  | resource => cases rejection
  | memory => cases rejection
  | unsupported => cases rejection

end BundleError

end TensorBundle

namespace TensorBundle.Handler

open TensorBundle.Convolution

def foundInput (op : Operation) (ws : Workspace) (index : Nat) : Option Tensor :=
  op.inputs[index]?.bind ws.tensor?

/-- The inputs of an operation fit each other and its fields, and these are the sizes. -/
structure Prepared (op : Operation) (ws : Workspace) (x filters : Tensor) (bias : Option Tensor)
    (g : Geometry) : Prop where
  input : foundInput op ws 0 = some x
  shape : batched x.shape = .ok [g.batch, g.channels, g.height, g.width]
  filterInput : foundInput op ws 1 = some filters
  filterShape : filters.shape = [g.filters, g.channels, g.kernelHeight, g.kernelWidth]
  biasInput : if 2 < op.inputs.length then ∃ b, foundInput op ws 2 = some b ∧ bias = some b
    else bias = none
  fields : strideAndPadding op = .ok (g.stride, g.padding)
  biasSize : ∀ b, bias = some b → numel b.shape = g.filters

/-- The inputs of an operation are tensors, of which the first has a shape for it. -/
structure Supplied (op : Operation) (ws : Workspace) (x filters : Tensor) (bias : Option Tensor)
    (shape : Shape) : Prop where
  input : foundInput op ws 0 = some x
  shape : batched x.shape = .ok shape
  filterInput : foundInput op ws 1 = some filters
  biasInput : if 2 < op.inputs.length then ∃ b, foundInput op ws 2 = some b ∧ bias = some b
    else bias = none

/-- The inputs are there, and stride and padding are refused with integers that no error shows. -/
def Unworded (op : Operation) (ws : Workspace) : Prop :=
  (∃ x filters bias shape, Supplied op ws x filters bias shape) ∧ IsUnwritable (strideAndPadding op)

inductive Convolved (op : Operation) (ws : Workspace) : Except Failure (Text × Tensor) → Prop where
  | rejected (e : BundleError) (rejection : e.isRejection = true)
      (unfit : ∀ x filters bias g, ¬ Prepared op ws x filters bias g)
      (worded : ¬ Unworded op ws) : Convolved op ws (.error (.error e))
  | unworded (refused : Unworded op ws) : Convolved op ws (.error (.fault .unwritableInteger))
  | cramped (x filters : Tensor) (bias : Option Tensor) (g : Geometry) (fault : Fault)
      (prepared : Prepared op ws x filters bias g)
      (short : g.shortage? ws.available.working x.type = some fault) :
      Convolved op ws (.error (.fault fault))
  | tooLarge (x filters : Tensor) (bias : Option Tensor) (g : Geometry) (e : BundleError)
      (prepared : Prepared op ws x filters bias g)
      (room : g.shortage? ws.available.working x.type = none)
      (misfit : convolve g x filters bias = none) (rejection : e.isRejection = true) :
      Convolved op ws (.error (.error e))
  | unnamed (x filters : Tensor) (bias : Option Tensor) (g : Geometry) (result : Tensor)
      (e : BundleError) (prepared : Prepared op ws x filters bias g)
      (room : g.shortage? ws.available.working x.type = none)
      (fits : convolve g x filters bias = some result)
      (nameless : op.outputs.head? = none) (rejection : e.isRejection = true) :
      Convolved op ws (.error (.error e))
  | done (x filters : Tensor) (bias : Option Tensor) (g : Geometry) (name : Text) (result : Tensor)
      (prepared : Prepared op ws x filters bias g)
      (room : g.shortage? ws.available.working x.type = none)
      (fits : convolve g x filters bias = some result) (named : op.output 0 = .ok name) :
      Convolved op ws (.ok (name, result))

theorem inputTensor_found {op : Operation} {ws : Workspace} {index : Nat} (small : index < 9)
    {t : Tensor} (found : foundInput op ws index = some t) :
    inputTensor op index ws = ⟨.ok t, ws, []⟩ := by
  obtain ⟨name, named, held⟩ := Option.bind_eq_some_iff.mp found
  simp only [inputTensor, Action.bind_run, Action.ofExcept_run, op.input_natCast small, named,
    Outcome.andThen_ok, Action.read_run, held]
  rfl

theorem inputTensor_missing {op : Operation} {ws : Workspace} {index : Nat} (small : index < 9)
    (missing : foundInput op ws index = none) : ∃ e : BundleError, e.isRejection = true ∧
      inputTensor op index ws = ⟨.error (.error e), ws, []⟩ := by
  unfold foundInput at missing
  simp only [inputTensor, Action.bind_run, Action.ofExcept_run, op.input_natCast small]
  cases named : op.inputs[index]? with
  | none => exact ⟨_, rfl, rfl⟩
  | some name =>
      simp only [named, Option.bind_some] at missing
      simp only [Outcome.andThen_ok, Action.bind_run, Action.read_run, missing]
      exact ⟨_, rfl, rfl⟩

theorem pair_rejected {key : Text} {values : List Int} {e : BundleError}
    (failed : pair key values = .error e) : e.isRejection = true := by
  unfold pair at failed
  split at failed <;> cases failed
  rfl

theorem sides_rejected {values : List Int} {e : BundleError} (failed : sides values = .error e) :
    e.isRejection = true := by
  unfold sides at failed
  split at failed <;> cases failed
  rfl

theorem require_rejected {op : Operation} {key : Text} {default : Option Json} {e : BundleError}
    (failed : op.require key default = .error e) : e.isRejection = true := by
  unfold Operation.require at failed
  split at failed <;> cases failed
  rfl

theorem getInts_rejected {op : Operation} {key : Text} {default : Option Json} {e : BundleError}
    (failed : op.getInts key default = .error e) : e.isRejection = true := by
  rcases bind_eq_error failed with failed | ⟨value, _, failed⟩
  · exact require_rejected failed
  · dsimp only at failed
    split at failed <;> cases failed
    rfl

theorem strideAndPadding_rejected {op : Operation} {e : BundleError}
    (failed : strideAndPadding op = .error e) : e.isRejection = true := by
  rcases bind_eq_error failed with failed | ⟨strides, _, failed⟩
  · exact getInts_rejected failed
  rcases bind_eq_error failed with failed | ⟨⟨vertical, horizontal⟩, _, failed⟩
  · exact pair_rejected failed
  rcases bind_eq_error failed with failed | ⟨pads, _, failed⟩
  · exact getInts_rejected failed
  rcases bind_eq_error failed with failed | ⟨⟨top, left, bottom, right⟩, _, failed⟩
  · exact sides_rejected failed
  dsimp only at failed
  split at failed <;> cases failed
  rfl

theorem batched_rejected {shape : Shape} {e : BundleError} (failed : batched shape = .error e) :
    e.isRejection = true := by
  unfold batched at failed
  split at failed
  · cases failed
  · split at failed <;> cases failed
    rfl

theorem batched_raised {shape : Shape} {e : BundleError} (failed : batched shape = .error e) :
    e.raised = .error e := by
  unfold batched at failed
  split at failed
  · cases failed
  · split at failed <;> cases failed
    rfl

theorem geometry_eq_some {input filters : Shape} {stride : Stride} {padding : Padding}
    {g : Geometry} (found : sizes? input filters stride padding = some g) :
    input = [g.batch, g.channels, g.height, g.width] ∧
      filters = [g.filters, g.channels, g.kernelHeight, g.kernelWidth] ∧ g.stride = stride ∧
      g.padding = padding := by
  unfold sizes? at found
  split at found
  · split at found
    · rename_i same
      cases found
      exact ⟨rfl, by rw [same], rfl, rfl⟩
    · cases found
  · cases found

theorem geometry_of_shapes (g : Geometry) :
    sizes? [g.batch, g.channels, g.height, g.width]
      [g.filters, g.channels, g.kernelHeight, g.kernelWidth] g.stride g.padding = some g := by
  simp [sizes?]

theorem biasTensor_found {op : Operation} {ws : Workspace} {bias : Option Tensor}
    (found : if 2 < op.inputs.length then ∃ b, foundInput op ws 2 = some b ∧ bias = some b
      else bias = none) : biasTensor op ws = ⟨.ok bias, ws, []⟩ := by
  unfold biasTensor
  split at found
  · rename_i third
    obtain ⟨b, present, rfl⟩ := found
    have read : inputTensor op 2 ws = ⟨.ok b, ws, []⟩ := inputTensor_found (by decide) present
    simp only [third, if_true, Action.map_run, read]
    rfl
  · rename_i third
    subst found
    simp only [third, if_false]
    rfl

theorem biasTensor_cases (op : Operation) (ws : Workspace) :
    (∃ bias, if 2 < op.inputs.length then ∃ b, foundInput op ws 2 = some b ∧ bias = some b
      else bias = none) ∨
    (2 < op.inputs.length ∧ foundInput op ws 2 = none ∧
      ∃ e : BundleError, e.isRejection = true ∧
        biasTensor op ws = ⟨.error (.error e), ws, []⟩) := by
  by_cases third : 2 < op.inputs.length
  · cases found : foundInput op ws 2 with
    | some b => exact Or.inl ⟨some b, by simp [third]⟩
    | none =>
        obtain ⟨e, rejection, failed⟩ := inputTensor_missing (by decide) found
        have read : inputTensor op 2 ws = ⟨.error (.error e), ws, []⟩ := failed
        refine Or.inr ⟨third, rfl, e, rejection, ?_⟩
        simp only [biasTensor, third, if_true, Action.map_run, read, Outcome.andThen_error]
  · exact Or.inl ⟨none, by simp [third]⟩

theorem checkBias_of_size {op : Operation} {count : Nat} {b : Tensor}
    (size : numel b.shape = count) :
    checkBias op count b = .ok () := by
  simp only [checkBias, size, if_true]
  rfl

theorem checkBias_of_mismatch {op : Operation} {count : Nat} {b : Tensor} {name : Text}
    (differs : ¬ numel b.shape = count) (named : op.input 2 = .ok name) : checkBias op count b =
      .error (.error (.validation .biasSize (some name) (some (Text.natural count))
        (some (Text.natural (numel b.shape))))) := by
  simp only [checkBias, differs, if_false, named]
  rfl

theorem convolved_of_prepared {op : Operation} {ws : Workspace} {x filters : Tensor}
    {bias : Option Tensor} {g : Geometry} (prepared : Prepared op ws x filters bias g) :
    convolved op ws = convolvedWith op x filters bias
      [g.batch, g.channels, g.height, g.width] g ws := by
  have input : inputTensor op 0 ws = ⟨.ok x, ws, []⟩ := inputTensor_found (by decide) prepared.input
  have filterInput : inputTensor op 1 ws = ⟨.ok filters, ws, []⟩ :=
    inputTensor_found (by decide) prepared.filterInput
  unfold convolved
  rw [Action.bind_run_ok input, prepared.shape, Action.bind_run_ok (Action.ofChecked_run _ ws),
    Action.bind_run_ok filterInput, Action.bind_run_ok (biasTensor_found prepared.biasInput),
    prepared.fields, Action.bind_run_ok (Action.ofChecked_run _ ws)]
  simp only [prepared.filterShape, geometry_of_shapes]
  cases bias with
  | none => rfl
  | some b =>
      have checked : checkBias op g.filters b = .ok () :=
        checkBias_of_size (prepared.biasSize b rfl)
      simp only [checked]
      rfl

theorem input_of_found {op : Operation} {ws : Workspace} {index : Nat} (small : index < 9)
    {t : Tensor} (found : foundInput op ws index = some t) :
    ∃ name, op.input index = .ok name := by
  obtain ⟨name, named, _⟩ := Option.bind_eq_some_iff.mp found
  exact ⟨name, by rw [op.input_natCast small, named]⟩

theorem input_of_bias {op : Operation} {ws : Workspace} {b : Tensor}
    (found : if 2 < op.inputs.length then ∃ c, foundInput op ws 2 = some c ∧ some b = some c
      else some b = none) : ∃ name, op.input 2 = .ok name := by
  split at found
  · obtain ⟨c, present, _⟩ := found
    exact input_of_found (by decide) present
  · cases found

theorem reserve_of_room {type : DataType} {g : Geometry} {ws : Workspace}
    (room : g.shortage? ws.available.working type = none) :
    reserve type g ws = ⟨.ok (), ws, []⟩ := by
  unfold reserve
  rw [Action.bind_run_ok (Action.read_run ws), room]
  rfl

theorem reserve_of_shortage {type : DataType} {g : Geometry} {ws : Workspace} {fault : Fault}
    (short : g.shortage? ws.available.working type = some fault) :
    reserve type g ws = ⟨.error (.fault fault), ws, []⟩ := by
  unfold reserve
  rw [Action.bind_run_ok (Action.read_run ws), short]
  rfl

theorem convolvedWith_convolved {op : Operation} {ws : Workspace} {x filters : Tensor}
    {bias : Option Tensor} {g : Geometry} (prepared : Prepared op ws x filters bias g)
    (shape : Shape) :
    Convolved op ws (convolvedWith op x filters bias shape g ws).result := by
  unfold convolvedWith
  cases room : g.shortage? ws.available.working x.type with
  | some fault =>
      rw [Action.bind_run_error (reserve_of_shortage room)]
      exact .cramped x filters bias g fault prepared room
  | none =>
      rw [Action.bind_run_ok (reserve_of_room room)]
      cases fits : convolve g x filters bias with
      | none =>
          obtain ⟨name, named⟩ := input_of_found (by decide) prepared.input
          have named : op.input 0 = .ok name := named
          dsimp only
          rw [named]
          exact .tooLarge x filters bias g _ prepared room fits rfl
      | some result =>
          dsimp only
          cases output : op.output 0 with
          | ok name => exact .done x filters bias g name result prepared room fits output
          | error e =>
              rw [op.output_zero] at output
              split at output
              · cases output
              · rename_i nameless
                cases output
                exact .unnamed x filters bias g result _ prepared room fits nameless rfl

theorem convolved_of_supplied {op : Operation} {ws : Workspace} {x filters : Tensor}
    {bias : Option Tensor} {shape : Shape} (supplied : Supplied op ws x filters bias shape)
    {e : BundleError} (refused : strideAndPadding op = .error e) :
    (convolved op ws).result = .error e.raised := by
  have input : inputTensor op 0 ws = ⟨.ok x, ws, []⟩ := inputTensor_found (by decide) supplied.input
  have filterInput : inputTensor op 1 ws = ⟨.ok filters, ws, []⟩ :=
    inputTensor_found (by decide) supplied.filterInput
  unfold convolved
  rw [Action.bind_run_ok input, supplied.shape, Action.bind_run_ok (Action.ofChecked_run _ ws),
    Action.bind_run_ok filterInput, Action.bind_run_ok (biasTensor_found supplied.biasInput),
    refused]
  rfl

theorem convolved_of_unfit {op : Operation} {ws : Workspace}
    (unfit : ∀ x filters bias g, ¬ Prepared op ws x filters bias g)
    (worded : ¬ Unworded op ws) :
    ∃ e : BundleError, e.isRejection = true ∧
      (convolved op ws).result = .error (.error e) := by
  -- Stage by stage: a check either ends the operation or is one more field of `Prepared`.
  cases input : foundInput op ws 0 with
  | none =>
      obtain ⟨e, rejection, failed⟩ := inputTensor_missing (by decide) input
      exact ⟨e, rejection, congrArg Outcome.result (Action.bind_run_error failed)⟩
  | some x =>
  have readInput : inputTensor op 0 ws = ⟨.ok x, ws, []⟩ := inputTensor_found (by decide) input
  cases shape : batched x.shape with
  | error e =>
      refine ⟨e, batched_rejected shape, ?_⟩
      unfold convolved
      rw [Action.bind_run_ok readInput, shape, ← batched_raised shape]
      rfl
  | ok padded =>
  cases filterInput : foundInput op ws 1 with
  | none =>
      obtain ⟨e, rejection, failed⟩ := inputTensor_missing (by decide) filterInput
      refine ⟨e, rejection, ?_⟩
      unfold convolved
      rw [Action.bind_run_ok readInput, shape, Action.bind_run_ok (Action.ofChecked_run _ ws)]
      exact congrArg Outcome.result (Action.bind_run_error failed)
  | some filters =>
  have readFilters : inputTensor op 1 ws = ⟨.ok filters, ws, []⟩ :=
    inputTensor_found (by decide) filterInput
  rcases biasTensor_cases op ws with ⟨bias, biasInput⟩ | ⟨_, _, e, rejection, failed⟩
  swap
  · refine ⟨e, rejection, ?_⟩
    unfold convolved
    rw [Action.bind_run_ok readInput, shape, Action.bind_run_ok (Action.ofChecked_run _ ws),
      Action.bind_run_ok readFilters]
    exact congrArg Outcome.result (Action.bind_run_error failed)
  have supplied : Supplied op ws x filters bias padded := ⟨input, shape, filterInput, biasInput⟩
  cases fields : strideAndPadding op with
  | error e =>
      refine ⟨e, strideAndPadding_rejected fields, ?_⟩
      have writable : e.isWritable = true := by
        by_contra bad
        exact worded ⟨⟨x, filters, bias, padded, supplied⟩, e, fields, by simpa using bad⟩
      rw [convolved_of_supplied supplied fields, BundleError.raised_of_writable writable]
  | ok given =>
  obtain ⟨stride, padding⟩ := given
  unfold convolved
  rw [Action.bind_run_ok readInput, shape, Action.bind_run_ok (Action.ofChecked_run _ ws),
    Action.bind_run_ok readFilters, Action.bind_run_ok (biasTensor_found biasInput), fields,
    Action.bind_run_ok (Action.ofChecked_run _ ws)]
  dsimp only
  cases sizes : sizes? padded filters.shape stride padding with
  | none =>
      obtain ⟨name, named⟩ := input_of_found (by decide) filterInput
      have named : op.input 1 = .ok name := named
      exact ⟨filterMismatch name padded filters.shape, rfl, by rw [named]; rfl⟩
  | some g =>
  obtain ⟨rfl, filterShape, rfl, rfl⟩ := geometry_eq_some sizes
  by_cases biasSize : ∀ b, bias = some b → numel b.shape = g.filters
  · exact absurd ⟨input, shape, filterInput, filterShape, biasInput, fields, biasSize⟩
      (unfit x filters bias g)
  · simp only [not_forall] at biasSize
    obtain ⟨b, rfl, differs⟩ := biasSize
    obtain ⟨name, named⟩ := input_of_bias biasInput
    refine ⟨.validation .biasSize (some name) (some (Text.natural g.filters))
      (some (Text.natural (numel b.shape))), rfl, ?_⟩
    simp only [checkBias_of_mismatch differs named]
    rfl

theorem convolved_of_unworded {op : Operation} {ws : Workspace} (unworded : Unworded op ws) :
    (convolved op ws).result = .error (.fault .unwritableInteger) := by
  obtain ⟨⟨x, filters, bias, shape, supplied⟩, e, refused, unwritable⟩ := unworded
  rw [convolved_of_supplied supplied refused, BundleError.raised_of_unwritable unwritable]

theorem convolved_convolved (op : Operation) (ws : Workspace) :
    Convolved op ws (convolved op ws).result := by
  by_cases fit : ∃ x filters bias g, Prepared op ws x filters bias g
  · obtain ⟨x, filters, bias, g, prepared⟩ := fit
    rw [convolved_of_prepared prepared]
    exact convolvedWith_convolved prepared _
  · simp only [not_exists] at fit
    by_cases unworded : Unworded op ws
    · rw [convolved_of_unworded unworded]
      exact .unworded unworded
    · obtain ⟨e, rejection, failed⟩ := convolved_of_unfit fit unworded
      rw [failed]
      exact .rejected e rejection fit unworded

theorem readsOnly_convolvedWith (op : Operation) (x filters : Tensor) (bias : Option Tensor)
    (shape : Shape) (g : Geometry) : (convolvedWith op x filters bias shape g).ReadsOnly := by
  have reserved : (reserve x.type g).ReadsOnly := by
    refine Action.readsOnly_bind (fun _ => rfl) fun ws => ?_
    cases g.shortage? ws.available.working x.type with
    | none => exact Action.readsOnly_pure ()
    | some fault => exact fun _ => rfl
  refine Action.readsOnly_bind reserved fun _ => ?_
  cases convolve g x filters bias with
  | none => exact Action.readsOnly_bind (Action.readsOnly_ofExcept _) fun _ _ => rfl
  | some result => exact Action.readsOnly_bind (Action.readsOnly_ofExcept _) fun _ _ => rfl

theorem readsOnly_biasTensor (op : Operation) : (biasTensor op).ReadsOnly := by
  unfold biasTensor
  split
  · exact Action.readsOnly_bind (readsOnly_inputTensor op 2) fun _ _ => rfl
  · exact Action.readsOnly_pure none

theorem readsOnly_convolved (op : Operation) : (convolved op).ReadsOnly := by
  refine Action.readsOnly_bind (readsOnly_inputTensor op 0) fun x => ?_
  refine Action.readsOnly_bind (Action.readsOnly_ofChecked _) fun shape => ?_
  refine Action.readsOnly_bind (readsOnly_inputTensor op 1) fun filters => ?_
  refine Action.readsOnly_bind (readsOnly_biasTensor op) fun bias => ?_
  refine Action.readsOnly_bind (Action.readsOnly_ofChecked _) fun fields => ?_
  dsimp only
  split
  · exact Action.readsOnly_bind (Action.readsOnly_ofExcept _) fun _ _ => rfl
  · cases bias with
    | none => exact readsOnly_convolvedWith op x filters none shape _
    | some b =>
        exact Action.readsOnly_bind (Action.readsOnly_ofExcept _) fun _ =>
          readsOnly_convolvedWith op x filters (some b) shape _

/-- A convolution that was found is stored; where there is none, nothing happens. -/
theorem convolution_run (setting : Setting) (op : Operation) (ws : Workspace) :
    ((convolution setting op ws).result, (convolution setting op ws).workspace) =
      match (convolved op ws).result with
      | .error e => (.error e, ws)
      | .ok (name, result) => ((store name result ws).result.map fun _ => some .success,
          (store name result ws).workspace) := by
  have kept := readsOnly_convolved op ws
  simp only [convolution, Action.bind_run]
  generalize convolved op ws = outcome at kept ⊢
  obtain ⟨_ | ⟨name, result⟩, after, log⟩ := outcome
  · exact Prod.ext rfl kept
  · change after = ws at kept
    subst kept
    simp only [Outcome.andThen_ok, Action.bind_run, Outcome.result_logged, Outcome.workspace_logged]
    generalize store name result after = stored
    obtain ⟨_ | _, last, log⟩ := stored <;> rfl

theorem convolution_effect (setting : Setting) (op : Operation) :
    (convolution setting op).Changes (OutputEffect op) := by
  intro ws
  have run := convolution_run setting op ws
  have found := convolved_convolved op ws
  generalize (convolved op ws).result = result at run found
  cases found with
  | rejected => exact Or.inl (Prod.ext_iff.mp run).2
  | unworded => exact Or.inl (Prod.ext_iff.mp run).2
  | cramped => exact Or.inl (Prod.ext_iff.mp run).2
  | tooLarge => exact Or.inl (Prod.ext_iff.mp run).2
  | unnamed => exact Or.inl (Prod.ext_iff.mp run).2
  | done x filters bias g name result prepared room fits named =>
      have after : (convolution setting op ws).workspace = (store name result ws).workspace :=
        (Prod.ext_iff.mp run).2
      rw [after]
      exact outputEffect_of_effect named
        (stored_effect (store_stored name result ws) (convolve_sound fits))

end TensorBundle.Handler
