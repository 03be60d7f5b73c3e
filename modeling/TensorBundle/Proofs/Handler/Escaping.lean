import Mathlib
import TensorBundle.Proofs.Handler.Convolving
import TensorBundle.Proofs.Operation.Accessors
/-!
When a handler of the library ends in a fault, which a run does not report as a status. Each of
them has such inputs, and these are all.
-/
namespace TensorBundle

namespace Handler

theorem stored_fault_iff {name : Text} {t : Tensor} {before after : Workspace}
    {result : Except Failure Unit} (stored : Stored name t before result after) (fault : Fault) :
    result = .error (.fault fault) ↔ before.Unreportable name t.type t.shape fault := by
  cases stored with
  | reused id holds => exact ⟨nofun, fun none => absurd holds (none.missing id)⟩
  | made missing room =>
      refine ⟨nofun, fun none => ?_⟩
      have full := none.full
      rw [full] at room
      cases room
  | refused missing full =>
      exact Iff.trans (by simp) (Workspace.obtained_fault_iff (.refused missing full) fault)

theorem isViewable_eq_false_iff (shape : Shape) :
    Handle.isViewable shape = false ↔ shape.length ≠ 1 ∧ 0 ∈ shape := by
  simp [Handle.isViewable]

section Load
variable (setting : Setting) (op : Operation) (ws : Workspace) (fault : Fault)

/-- A field of a request to load a tensor is refused with an integer that the error cannot show. -/
inductive LoadRequest.Unworded : Prop where
  | file (name : Text) (named : op.output 0 = .ok name)
      (refused : IsUnwritable (op.getText "fileName" none))
  | type (name file : Text) (named : op.output 0 = .ok name)
      (hasFile : op.getText "fileName" none = .ok file)
      (refused : IsUnwritable (op.getDataType "dataType" none))
  | shape (name file : Text) (type : DataType) (named : op.output 0 = .ok name)
      (hasFile : op.getText "fileName" none = .ok file)
      (typed : op.getDataType "dataType" none = .ok type)
      (refused : IsUnwritable (op.getShape "shape"))

/-- The ways in which loading a tensor ends in a fault: a field is refused that cannot be shown, the
name of the file is no path, the error for a shape that there is no memory for cannot be worded, or
the shape has a zero among several dimensions and there is a file for it. -/
def LoadEscapes : Prop :=
  (fault = .unwritableInteger ∧ LoadRequest.Unworded op) ∨
  ∃ r, LoadRequest.ofOperation op = .ok r ∧ isKept setting.config r.name ws = false ∧
    (Path.fault? (ws.resolve r.file) = some fault ∨
      (Path.fault? (ws.resolve r.file) = none ∧
        ws.Unreportable r.name r.type r.shape fault ∧ (setting.config.strictResources = false ∨
          ∃ bytes, setting.files.bytes (ws.resolve r.file) = .ok bytes)) ∨
      (Path.fault? (ws.resolve r.file) = none ∧ fault = .zeroDimensionView ∧
        (∃ bytes, setting.files.bytes (ws.resolve r.file) = .ok bytes) ∧
        ((∃ id, ws.Holds r.name r.type r.shape id) ∨
          Tensor.canAllocate ws.available.tensor r.type r.shape = true) ∧
        r.shape.length ≠ 1 ∧ 0 ∈ r.shape))

theorem output_ne_fault : op.output 0 ≠ .error (.fault fault) := by
  rw [op.output_zero]
  cases op.outputs.head? <;> simp

theorem LoadRequest.fault_iff : LoadRequest.ofOperation op = .error (.fault fault) ↔
    fault = .unwritableInteger ∧ LoadRequest.Unworded op := by
  constructor
  · intro failed
    rcases bind_eq_error failed with failed | ⟨name, named, failed⟩
    · exact absurd failed (output_ne_fault op fault)
    rcases fault_of_bind_raised failed with ⟨same, refused⟩ | ⟨file, hasFile, failed⟩
    · exact ⟨same, .file name named refused⟩
    rcases fault_of_bind_raised failed with ⟨same, refused⟩ | ⟨type, typed, failed⟩
    · exact ⟨same, .type name file named hasFile refused⟩
    rcases fault_of_bind_raised failed with ⟨same, refused⟩ | ⟨shape, _, failed⟩
    · exact ⟨same, .shape name file type named hasFile typed refused⟩
    · cases failed
  · rintro ⟨rfl, unworded⟩
    unfold ofOperation
    cases unworded with
    | file name named refused =>
        rw [named, mapError_raised_of_unwritable refused]
        rfl
    | type name file named hasFile refused =>
        rw [named, hasFile, mapError_raised_of_unwritable refused]
        rfl
    | shape name file type named hasFile typed refused =>
        rw [named, hasFile, typed, mapError_raised_of_unwritable refused]
        rfl

theorem load_fault_iff :
    (load setting op ws).result = .error (.fault fault) ↔ LoadEscapes setting op ws fault := by
  have loaded := load_loaded setting op ws
  generalize (load setting op ws).result = result,
    (load setting op ws).workspace = after at loaded ⊢
  unfold LoadEscapes
  rw [← LoadRequest.fault_iff]
  cases loaded with
  | malformed e bad => simp [bad]
  | kept r request there => simp [request, there]
  | unnamable r other request wanted noPath => simp [request, wanted, noPath]
  | unopened r e request asks closed strict =>
      simp [request, asks.wanted, asks.namable, closed, strict]
  | blank r e result after request asks closed lenient obtained =>
      have fails := Workspace.obtained_fault_iff obtained fault
      have unreached : (result.map fun _ => some Status.success) = .error (.fault fault) ↔
          result = .error (.fault fault) := by
        cases result <;> simp [Except.map]
      simp [request, asks.wanted, asks.namable, closed, lenient, unreached, fails]
  | refused r bytes failure after request asks opened obtained =>
      have fails : failure = .fault fault ↔ ws.Unreportable r.name r.type r.shape fault := by
        simpa using Workspace.obtained_fault_iff obtained fault
      have unheld := (Workspace.obtained_ok_iff obtained).not.mp (by simp)
      simp [request, asks.wanted, asks.namable, opened, fails, unheld]
  | unviewable r bytes id after request asks opened obtained flat =>
      have held := (Workspace.obtained_ok_iff obtained).mp ⟨id, rfl⟩
      have noFailure := (Workspace.obtained_fault_iff obtained fault).not.mp (by simp)
      obtain ⟨several, zero⟩ := (isViewable_eq_false_iff r.shape).mp flat
      -- This is the one case in which the third way applies.
      rw [Except.error.injEq, Failure.fault.injEq, eq_comm]
      simp [request, asks.wanted, asks.namable, opened, held, noFailure, several, zero]
  | filled r bytes id after old request asks opened obtained held viewable enough =>
      have noFailure := (Workspace.obtained_fault_iff obtained fault).not.mp (by simp)
      have flat := (isViewable_eq_false_iff r.shape).not.mp (by simp [viewable])
      simp [request, asks.wanted, asks.namable, opened, noFailure, flat]
  | short r bytes id after old request asks opened obtained held viewable cut lenient =>
      have noFailure := (Workspace.obtained_fault_iff obtained fault).not.mp (by simp)
      have flat := (isViewable_eq_false_iff r.shape).not.mp (by simp [viewable])
      simp [request, asks.wanted, asks.namable, opened, noFailure, flat]
  | withdrawn r bytes id after old request asks opened obtained held viewable cut strict =>
      have noFailure := (Workspace.obtained_fault_iff obtained fault).not.mp (by simp)
      have flat := (isViewable_eq_false_iff r.shape).not.mp (by simp [viewable])
      simp [request, asks.wanted, asks.namable, opened, noFailure, flat]

end Load

section LoadImage
variable (setting : Setting) (op : Operation) (ws : Workspace) (fault : Fault)

def ImageRequest.Opens (name file : Text) (type : DataType) : Prop :=
  op.output 0 = .ok name ∧ op.getText "fileName" none = .ok file ∧
    op.getDataType "dataType" (some (.text "single")) = .ok type

/-- The averages of an image have an integer beyond the floating-point numbers, and nothing in
front of them is in error. -/
def AverageBeyondFloat : Prop :=
  ∃ name file type items, ImageRequest.Opens op name file type ∧
    op.GivesNumbers "averageColor" items ∧ ∃ n, .int n ∈ items ∧ Operation.IsBeyondFloat n

inductive ImageRequest.Unworded : Prop where
  | file (name : Text) (named : op.output 0 = .ok name)
      (refused : IsUnwritable (op.getText "fileName" none))
  | type (name file : Text) (named : op.output 0 = .ok name)
      (hasFile : op.getText "fileName" none = .ok file)
      (refused : IsUnwritable (op.getDataType "dataType" (some (.text "single"))))
  | average (name file : Text) (type : DataType) (opens : ImageRequest.Opens op name file type)
      (other : ∀ items, ¬ op.GivesNumbers "averageColor" items)
      (refused : op.HasUnwritable "averageColor")

theorem has_of_get {op : Operation} {key : Text} {value : Json} (given : op.get? key = some value) :
    op.has key = true := by
  unfold Operation.has
  rw [← Operation.get?, given]
  rfl

theorem ImageRequest.fault_iff : ImageRequest.ofOperation op = .error (.fault fault) ↔
    (fault = .integerBeyondFloat ∧ AverageBeyondFloat op) ∨
      (fault = .unwritableInteger ∧ ImageRequest.Unworded op) := by
  constructor
  · intro failed
    rcases bind_eq_error failed with failed | ⟨name, named, failed⟩
    · exact absurd failed (output_ne_fault op fault)
    rcases fault_of_bind_raised failed with ⟨same, refused⟩ | ⟨file, hasFile, failed⟩
    · exact Or.inr ⟨same, .file name named refused⟩
    rcases fault_of_bind_raised failed with ⟨same, refused⟩ | ⟨type, typed, failed⟩
    · exact Or.inr ⟨same, .type name file named hasFile refused⟩
    split at failed
    · rcases bind_eq_error failed with failed | ⟨average, _, failed⟩
      · rcases (op.getNumbers_fault_iff "averageColor" fault).mp failed with
          ⟨same, items, beyond⟩ | ⟨same, other, refused⟩
        · exact Or.inl ⟨same, name, file, type, items, ⟨named, hasFile, typed⟩, beyond⟩
        · exact Or.inr ⟨same, .average name file type ⟨named, hasFile, typed⟩ other refused⟩
      · split at failed <;> cases failed
    · cases failed
  · unfold ofOperation
    rintro (⟨same, name, file, type, items, ⟨named, hasFile, typed⟩, gives, beyond⟩ |
      ⟨rfl, unworded⟩)
    · have failed := (op.getNumbers_fault_iff "averageColor" fault).mpr
        (Or.inl ⟨same, items, gives, beyond⟩)
      simp only [named, hasFile, typed, has_of_get gives.1, failed]
      rfl
    · cases unworded with
      | file name named refused =>
          rw [named, mapError_raised_of_unwritable refused]
          rfl
      | type name file named hasFile refused =>
          rw [named, hasFile, mapError_raised_of_unwritable refused]
          rfl
      | average name file type opens other refused =>
          obtain ⟨named, hasFile, typed⟩ := opens
          have failed := (op.getNumbers_fault_iff "averageColor" .unwritableInteger).mpr
            (Or.inr ⟨rfl, other, refused⟩)
          obtain ⟨value, given, _⟩ := refused
          simp only [named, hasFile, typed, has_of_get given, failed]
          rfl

/-- The ways in which loading an image ends in a fault: an average is beyond the floating-point
numbers, a field is refused that cannot be shown, the name of the file is no path, decoding the file
ends in a fault, or the error for a tensor that there is no memory for cannot be worded. -/
def ImageEscapes : Prop :=
  (fault = .integerBeyondFloat ∧ AverageBeyondFloat op) ∨
  (fault = .unwritableInteger ∧ ImageRequest.Unworded op) ∨
  ∃ r, ImageRequest.ofOperation op = .ok r ∧ isKept setting.config r.name ws = false ∧
    (Path.fault? (ws.resolve r.file) = some fault ∨
      (Path.fault? (ws.resolve r.file) = none ∧
        setting.files.image (ws.resolve r.file) = .error (.fault fault)) ∨
      (Path.fault? (ws.resolve r.file) = none ∧
        ∃ image, setting.files.image (ws.resolve r.file) = .ok image ∧
          ws.Unreportable r.name r.type [1, 3, image.height, image.width] fault))

theorem loadImage_fault_iff :
    (loadImage setting op ws).result = .error (.fault fault) ↔
      ImageEscapes setting op ws fault := by
  have pictured := loadImage_pictured setting op ws
  generalize (loadImage setting op ws).result = result, (loadImage setting op ws).workspace = after
    at pictured ⊢
  unfold ImageEscapes
  rw [← or_assoc, ← ImageRequest.fault_iff]
  cases pictured with
  | malformed e bad => simp [bad]
  | kept r request there => simp [request, there]
  | unnamable r other request wanted noPath => simp [request, wanted, noPath]
  | undecodable r other request asks broken => simp [request, asks.wanted, asks.namable, broken]
  | unreadable r reason request asks broken strict =>
      simp [request, asks.wanted, asks.namable, broken]
  | ignored r reason request asks broken lenient =>
      simp [request, asks.wanted, asks.namable, broken]
  | decoded r image result after request asks whole stored =>
      have fails := stored_fault_iff stored fault
      have reached : (result.map fun _ => some Status.success) = .error (.fault fault) ↔
          result = .error (.fault fault) := by
        cases result <;> simp [Except.map]
      rw [reached, fails]
      simp [request, asks.wanted, asks.namable, whole, imageTensor, Tensor.ofElements]

end LoadImage

section Worded
variable {op : Operation}

theorem mem_of_pair {key : Text} {values : List Int} {vertical horizontal : Int}
    (paired : pair key values = .ok (vertical, horizontal)) :
    vertical ∈ values ∧ horizontal ∈ values := by
  unfold pair at paired
  split at paired <;> cases paired <;> simp

theorem mem_of_sides {values : List Int} {top left bottom right : Int}
    (sided : sides values = .ok (top, left, bottom, right)) :
    top ∈ values ∧ left ∈ values ∧ bottom ∈ values ∧ right ∈ values := by
  unfold sides at sided
  split at sided <;> cases sided <;> simp

theorem isWritable_of_strideAndPadding (strideWorded : ¬ op.HasUnwritable "stride")
    (padWorded : ¬ op.HasUnwritable "pad") {e : BundleError}
    (failed : strideAndPadding op = .error e) : e.isWritable = true := by
  have standsFor : ∀ d : Int, ∀ value, some (Json.array [.int d]) = some value →
      ∃ ints, value.GivesInts ints := by
    rintro d _ ⟨⟩
    exact ⟨[d], Or.inl rfl⟩
  rcases bind_eq_error failed with failed | ⟨strides, readStrides, failed⟩
  · have isField := Operation.failsByField_getInts (standsFor 1) e failed
    simpa [strideWorded] using isField.2
  have strides_writable := Operation.isWritable_of_getInts (by decide) readStrides strideWorded
  rcases bind_eq_error failed with failed | ⟨⟨vertical, horizontal⟩, paired, failed⟩
  · unfold pair at failed
    split at failed <;> cases failed
    exact (Operation.isWritable_ints strides).mpr strides_writable
  rcases bind_eq_error failed with failed | ⟨pads, readPads, failed⟩
  · have isField := Operation.failsByField_getInts (standsFor 0) e failed
    simpa [padWorded] using isField.2
  have pads_writable := Operation.isWritable_of_getInts (by decide) readPads padWorded
  rcases bind_eq_error failed with failed | ⟨⟨top, left, bottom, right⟩, sided, failed⟩
  · unfold sides at failed
    split at failed <;> cases failed
    exact (Operation.isWritable_ints pads).mpr pads_writable
  dsimp only at failed
  split at failed
  · cases failed
    obtain ⟨isVertical, isHorizontal⟩ := mem_of_pair paired
    obtain ⟨isTop, isLeft, isBottom, isRight⟩ := mem_of_sides sided
    simp [BundleError.isWritable, ConfigurationProblem.isWritable, Json.isWritable,
      Json.areWritableMembers, Json.areWritable, strides_writable _ isVertical,
      strides_writable _ isHorizontal, pads_writable _ isTop, pads_writable _ isLeft,
      pads_writable _ isBottom, pads_writable _ isRight]
  · cases failed

theorem hasUnwritable_of_unworded {ws : Workspace} (unworded : Unworded op ws) :
    op.HasUnwritable "stride" ∨ op.HasUnwritable "pad" := by
  obtain ⟨_, e, failed, unwritable⟩ := unworded
  by_contra worded
  obtain ⟨strideWorded, padWorded⟩ := not_or.mp worded
  rw [isWritable_of_strideAndPadding strideWorded padWorded failed] at unwritable
  cases unwritable

/-- Where all fields can be written out, so can every error about one of them. -/
theorem worded_of_isWritable (writable : op.IsWritable) (ws : Workspace) :
    ¬ LoadRequest.Unworded op ∧ ¬ ImageRequest.Unworded op ∧ ¬ Unworded op ws := by
  have never : ∀ {α : Type} {key : Text} {result : Except BundleError α},
      op.FailsByField key result → ¬ IsUnwritable result := fun {_} {key} {_} fails bad =>
    writable key ((Operation.isUnwritable_iff fails).mp bad).2
  have noText : ∀ value : Json, none = some value → ∃ t, value = .text t := nofun
  have noType : ∀ value : Json, none = some value → value = .text "single" := nofun
  refine ⟨?_, ?_, ?_⟩
  · rintro (⟨_, _, refused⟩ | ⟨_, _, _, _, refused⟩ | ⟨_, _, _, _, _, _, refused⟩)
    · exact never (Operation.failsByField_getText noText) refused
    · exact never (Operation.failsByField_getDataType noType) refused
    · exact never Operation.failsByField_getShape refused
  · rintro (⟨_, _, refused⟩ | ⟨_, _, _, _, refused⟩ | ⟨_, _, _, _, _, refused⟩)
    · exact never (Operation.failsByField_getText noText) refused
    · refine never (Operation.failsByField_getDataType fun value same => ?_) refused
      exact (Option.some.inj same).symm
    · exact writable "averageColor" refused
  · intro unworded
    exact (hasUnwritable_of_unworded unworded).elim (writable "stride") (writable "pad")

end Worded

section Convolution
variable (setting : Setting) (op : Operation) (ws : Workspace) (fault : Fault)

/-- The ways in which a convolution ends in a fault: stride and padding are refused and cannot be
shown, there is no room for the arrays that it works on, or the error for a tensor that there is no
memory for cannot be worded. -/
def ConvolutionEscapes : Prop :=
  (fault = .unwritableInteger ∧ Unworded op ws) ∨
  ∃ x w bias g, Prepared op ws x w bias g ∧
    (g.shortage? ws.available.working x.type = some fault ∨
      (g.shortage? ws.available.working x.type = none ∧
        ∃ name y, op.output 0 = .ok name ∧ Convolution.convolve g x w bias = some y ∧
          ws.Unreportable name y.type y.shape fault))

theorem convolved_of_room {op : Operation} {ws : Workspace} {x w y : Tensor} {bias : Option Tensor}
    {g : Convolution.Geometry} {name : Text} (prepared : Prepared op ws x w bias g)
    (room : g.shortage? ws.available.working x.type = none)
    (fits : Convolution.convolve g x w bias = some y) (named : op.output 0 = .ok name) :
    (convolved op ws).result = .ok (name, y) := by
  rw [convolved_of_prepared prepared, convolvedWith, Action.bind_run_ok (reserve_of_room room),
    fits]
  dsimp only
  rw [named]
  rfl

theorem convolved_of_shortage {op : Operation} {ws : Workspace} {x w : Tensor}
    {bias : Option Tensor} {g : Convolution.Geometry} {fault : Fault}
    (prepared : Prepared op ws x w bias g)
    (short : g.shortage? ws.available.working x.type = some fault) :
    (convolved op ws).result = .error (.fault fault) := by
  rw [convolved_of_prepared prepared, convolvedWith,
    Action.bind_run_error (reserve_of_shortage short)]

theorem convolution_fault_iff :
    (convolution setting op ws).result = .error (.fault fault) ↔
      ConvolutionEscapes op ws fault := by
  have run := (Prod.ext_iff.mp (convolution_run setting op ws)).1
  dsimp only at run
  rw [run]
  constructor
  · intro failed
    have found := convolved_convolved op ws
    generalize (convolved op ws).result = value at failed found
    cases found with
    | rejected => cases failed
    | tooLarge => cases failed
    | unnamed => cases failed
    | unworded refused =>
        cases failed
        exact Or.inl ⟨rfl, refused⟩
    | cramped x w bias g other prepared short =>
        cases failed
        exact Or.inr ⟨x, w, bias, g, prepared, Or.inl short⟩
    | done x w bias g name y prepared room fits named =>
        have stored := store_stored name y ws
        have ending : (store name y ws).result = .error (.fault fault) := by
          cases result : (store name y ws).result with
          | error e =>
              simp only [result, Except.map] at failed
              cases failed
              rfl
          | ok done => simp [result, Except.map] at failed
        have unreportable := (stored_fault_iff stored fault).mp ending
        exact Or.inr ⟨x, w, bias, g, prepared, Or.inr ⟨room, name, y, named, fits, unreportable⟩⟩
  · rintro (⟨rfl, refused⟩ | ⟨x, w, bias, g, prepared,
      short | ⟨room, name, y, named, fits, unreportable⟩⟩)
    · rw [convolved_of_unworded refused]
    · rw [convolved_of_shortage prepared short]
    · have ending := (stored_fault_iff (store_stored name y ws) fault).mpr unreportable
      rw [convolved_of_room prepared room fits named]
      simp only [ending, Except.map]

end Convolution

end Handler
end TensorBundle
