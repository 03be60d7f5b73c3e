import Mathlib
import TensorBundle.FileTree
import TensorBundle.Proofs.Handler.Convolving
import TensorBundle.Proofs.Handler.Escaping
import TensorBundle.Proofs.Json.Legible
import TensorBundle.Proofs.Operation.Accessors
import TensorBundle.Proofs.Tensor.Convolution
/-!
What a convolution that succeeds leaves under the name of its output, and the domain of
convolution: which inputs and fields a convolution takes, where there is memory for it. All others
it rejects with an error of the operation or of its inputs.
-/
namespace TensorBundle.Handler

open TensorBundle.Convolution

inductive StrideForm : List Int → Stride → Prop where
  | both (distance : Nat) : StrideForm [(distance : Int)] ⟨distance, distance⟩
  | each (vertical horizontal : Nat) :
      StrideForm [(vertical : Int), (horizontal : Int)] ⟨vertical, horizontal⟩

inductive PaddingForm : List Int → Padding → Prop where
  | all (count : Nat) : PaddingForm [(count : Int)] ⟨count, count, count, count⟩
  | axes (vertical horizontal : Nat) :
      PaddingForm [(vertical : Int), (horizontal : Int)]
        ⟨vertical, horizontal, vertical, horizontal⟩
  | sides (top left bottom right : Nat) :
      PaddingForm [(top : Int), (left : Int), (bottom : Int), (right : Int)]
        ⟨top, left, bottom, right⟩

theorem pair_eq_ok {key : Text} {values : List Int} {vertical horizontal : Int}
    (done : pair key values = .ok (vertical, horizontal)) (positive : 0 < min vertical horizontal) :
    StrideForm values ⟨vertical.toNat, horizontal.toNat⟩ := by
  unfold pair at done
  split at done
  · cases done
    have form := StrideForm.both vertical.toNat
    rwa [Int.toNat_of_nonneg (by omega)] at form
  · cases done
    have form := StrideForm.each vertical.toNat horizontal.toNat
    rwa [Int.toNat_of_nonneg (by omega), Int.toNat_of_nonneg (by omega)] at form
  · cases done

theorem sides_eq_ok {values : List Int} {top left bottom right : Int}
    (done : sides values = .ok (top, left, bottom, right))
    (positive : 0 ≤ min (min top left) (min bottom right)) :
    PaddingForm values ⟨top.toNat, left.toNat, bottom.toNat, right.toNat⟩ := by
  unfold sides at done
  split at done
  · cases done
    have form := PaddingForm.all top.toNat
    rwa [Int.toNat_of_nonneg (by omega)] at form
  · cases done
    have form := PaddingForm.axes top.toNat left.toNat
    rwa [Int.toNat_of_nonneg (by omega), Int.toNat_of_nonneg (by omega)] at form
  · cases done
    have form := PaddingForm.sides top.toNat left.toNat bottom.toNat right.toNat
    rwa [Int.toNat_of_nonneg (by omega), Int.toNat_of_nonneg (by omega),
      Int.toNat_of_nonneg (by omega),
      Int.toNat_of_nonneg (by omega)] at form
  · cases done

/-- The stride and the padding are those of the fields, or one and zero where there is no field. -/
structure Spaced (op : Operation) (stride : Stride) (padding : Padding) : Prop where
  strides : ∃ values, op.getInts "stride" (some (.array [.int 1])) = .ok values ∧
    StrideForm values stride
  paddings : ∃ values, op.getInts "pad" (some (.array [.int 0])) = .ok values ∧
    PaddingForm values padding
  vertical : 0 < stride.vertical
  horizontal : 0 < stride.horizontal

theorem spaced_of_fields {op : Operation} {stride : Stride} {padding : Padding}
    (fields : strideAndPadding op = .ok (stride, padding)) : Spaced op stride padding := by
  obtain ⟨strides, readStrides, fields⟩ := bind_eq_ok fields
  obtain ⟨⟨vertical, horizontal⟩, paired, fields⟩ := bind_eq_ok fields
  obtain ⟨pads, readPads, fields⟩ := bind_eq_ok fields
  obtain ⟨⟨top, left, bottom, right⟩, sided, fields⟩ := bind_eq_ok fields
  dsimp only at fields
  split at fields
  · cases fields
  · rename_i valid
    cases fields
    have positive : 0 < min vertical horizontal ∧ 0 ≤ min (min top left) (min bottom right) := by
      omega
    refine ⟨⟨strides, readStrides, pair_eq_ok paired positive.1⟩,
      ⟨pads, readPads, sides_eq_ok sided positive.2⟩, ?_, ?_⟩
    · change 0 < vertical.toNat
      omega
    · change 0 < horizontal.toNat
      omega

theorem windowCount_of_pos {total kernel stride : Nat} (apart : 0 < stride)
    (some : windowCount total kernel stride ≠ 0) :
    kernel ≤ total ∧ windowCount total kernel stride = (total - kernel) / stride + 1 := by
  unfold windowCount at some ⊢
  by_cases fits : kernel ≤ total
  · refine ⟨fits, ?_⟩
    rw [← Nat.cast_sub fits, Int.fdiv_eq_ediv_of_nonneg _ (Int.natCast_nonneg stride), ←
      Int.natCast_ediv]
    generalize (total - kernel) / stride = steps
    omega
  · exfalso
    apply some
    -- Rounding goes down, so that a filter beyond the axis leaves at most zero windows.
    have negative : Int.fdiv ((total : Int) - kernel) stride < 0 := by
      rw [Int.fdiv_eq_ediv_of_nonneg _ (Int.natCast_nonneg stride)]
      exact Int.ediv_neg_of_neg_of_pos (by omega) (by omega)
    omega

/-- The handle under a name is the one that was there if that held a tensor of the type and the
shape; otherwise it is a new one, and the one that was there is empty. -/
def Reuses (name : Text) (type : DataType) (shape : Shape) (before after : Workspace) : Prop :=
  (∃ id, before.Holds name type shape id ∧ after.number? name = some id) ∨
  ((∀ id, ¬ before.Holds name type shape id) ∧ after.number? name = some before.handles.length ∧
    ∀ id t, before.number? name = some id → before.handle id = .holding t →
      after.handle id = .empty)

theorem stored_ok {name : Text} {t : Tensor} {before after : Workspace} {done : Unit}
    (stored : Stored name t before (.ok done) after) :
    after.tensor? name = some t ∧ Reuses name t.type t.shape before after := by
  cases stored with
  | reused id holds =>
      obtain ⟨number, old, held, type, shape⟩ := holds
      have known := Workspace.lt_of_holding before id old held
      have put := Workspace.handle_putHandle_self before id (.holding t) known
      refine ⟨?_, Or.inl ⟨id, ⟨number, old, held, type, shape⟩, number⟩⟩
      simp [Workspace.tensor?, number, put, Handle.tensor?]
  | made missing room =>
      have free := Workspace.number_remove_self before name
      have number := Workspace.number_insertNew_self (before.remove name) name (.holding t) free
      have held := Workspace.handle_insertNew_self (before.remove name) name (.holding t)
      refine ⟨?_, Or.inr ⟨missing, ?_, ?_⟩⟩
      · simp only [Workspace.tensor?, number, Option.bind_some, held, Handle.tensor?]
      · rw [number, Workspace.length_remove]
      · intro id old wasStored wasHeld
        have known := Workspace.lt_of_holding before id old wasHeld
        rw [Workspace.handle_insertNew_ne (before.remove name) name _ id
          (by rw [Workspace.length_remove]; exact known.ne)]
        exact Workspace.handle_remove_self before name id wasStored

def resultHeight (g : Geometry) : Nat :=
  (g.height + g.padding.top + g.padding.bottom - g.kernelHeight) / g.stride.vertical + 1

def resultWidth (g : Geometry) : Nat :=
  (g.width + g.padding.left + g.padding.right - g.kernelWidth) / g.stride.horizontal + 1

/-- The convolution of what the inputs held before, in a workspace that has it under the name of the
output. -/
structure Computes (op : Operation) (before after : Workspace) (x w : Tensor) (bias : Option Tensor)
    (g : Geometry) (name : Text) (y : Tensor) : Prop where
  input : foundInput op before 0 = some x
  inputShape : x.shape = [g.batch, g.channels, g.height, g.width] ∨
    (g.batch = 1 ∧ x.shape = [g.channels, g.height, g.width])
  filters : foundInput op before 1 = some w
  filterShape : w.shape = [g.filters, g.channels, g.kernelHeight, g.kernelWidth]
  biasInput : bias = if 2 < op.inputs.length then foundInput op before 2 else none
  spaced : Spaced op g.stride g.padding
  named : op.output 0 = .ok name
  stored : after.tensor? name = some y
  type : y.type = x.type
  fits : g.kernelHeight ≤ g.height + g.padding.top + g.padding.bottom ∧
    g.kernelWidth ≤ g.width + g.padding.left + g.padding.right
  shape : y.shape = [g.batch, g.filters, resultHeight g, resultWidth g]
  complete : y.IsSound
  reuses : Reuses name x.type y.shape before after
  entries : w.type = x.type → ∀ X W B, IsRead x g.batch g.channels g.height g.width X →
    IsRead w g.filters g.channels g.kernelHeight g.kernelWidth W → IsBias bias g.filters B →
    ∀ n < g.batch, ∀ o < g.filters, ∀ i < resultHeight g, ∀ j < resultWidth g,
      x.type.HasRoom (windowMagnitude g X W n o i j + |B o|) →
      (y.entry y.shape [n, o, i, j]).value? =
        some (x.type.wrap (B o + windowSum g X W n o i j) : ℚ)
  bytes : x.type = .char → w.type = .char → (∀ b, bias = some b → b.type = .char) →
    ∃ X W B, IsRead x g.batch g.channels g.height g.width X ∧
      IsRead w g.filters g.channels g.kernelHeight g.kernelWidth W ∧ IsBias bias g.filters B

theorem shape_of_batched {shape : Shape} {n c h w : Nat} (fits : batched shape = .ok [n, c, h, w]) :
    shape = [n, c, h, w] ∨ (n = 1 ∧ shape = [c, h, w]) := by
  unfold batched at fits
  split at fits
  · cases fits
    exact Or.inr ⟨rfl, rfl⟩
  · split at fits
    · cases fits
      exact Or.inl rfl
    · cases fits

theorem convolve_eq_some {g : Geometry} {x w y : Tensor} {bias : Option Tensor}
    (fits : convolve g x w bias = some y) :
    y.type = x.type ∧ y.shape = g.outShape ∧ g.outHeight ≠ 0 ∧ g.outWidth ≠ 0 := by
  unfold convolve at fits
  split at fits
  · cases fits
  · rename_i places
    cases fits
    simp only [Geometry.isTooSmall, Bool.or_eq_true, decide_eq_true_eq, not_or] at places
    exact ⟨rfl, rfl, places⟩

theorem paddedHeight_eq (g : Geometry) :
    g.paddedHeight = g.height + g.padding.top + g.padding.bottom := by
  rw [Geometry.paddedHeight, Nat.add_comm g.padding.top]

theorem paddedWidth_eq (g : Geometry) :
    g.paddedWidth = g.width + g.padding.left + g.padding.right := by
  rw [Geometry.paddedWidth, Nat.add_comm g.padding.left]

theorem outHeight_eq {g : Geometry} (apart : 0 < g.stride.vertical) (some : g.outHeight ≠ 0) :
    g.kernelHeight ≤ g.height + g.padding.top + g.padding.bottom ∧
      g.outHeight = resultHeight g := by
  have rows := windowCount_of_pos apart some
  rw [paddedHeight_eq] at rows
  rw [Geometry.outHeight, paddedHeight_eq]
  exact rows

theorem outWidth_eq {g : Geometry} (apart : 0 < g.stride.horizontal) (some : g.outWidth ≠ 0) :
    g.kernelWidth ≤ g.width + g.padding.left + g.padding.right ∧ g.outWidth = resultWidth g := by
  have columns := windowCount_of_pos apart some
  rw [paddedWidth_eq] at columns
  rw [Geometry.outWidth, paddedWidth_eq]
  exact columns

theorem computes_of_done {op : Operation} {before after : Workspace} {x w : Tensor}
    {bias : Option Tensor} {g : Geometry} {name : Text} {y : Tensor} {done : Unit}
    (prepared : Prepared op before x w bias g) (fits : convolve g x w bias = some y)
    (named : op.output 0 = .ok name) (stored : Stored name y before (.ok done) after) :
    Computes op before after x w bias g name y := by
  have spaced := spaced_of_fields prepared.fields
  obtain ⟨held, reuses⟩ := stored_ok stored
  obtain ⟨type, shape, someRow, someColumn⟩ := convolve_eq_some fits
  obtain ⟨fitsRows, outHeight⟩ := outHeight_eq spaced.vertical someRow
  obtain ⟨fitsColumns, outWidth⟩ := outWidth_eq spaced.horizontal someColumn
  -- The rows and columns of the result are those of the formula from here on.
  exact {
    input := prepared.input
    inputShape := shape_of_batched prepared.shape
    filters := prepared.filterInput
    filterShape := prepared.filterShape
    biasInput := by
      have given := prepared.biasInput
      split at given
      · rename_i third
        obtain ⟨b, present, same⟩ := given
        rw [if_pos third, same, present]
      · rename_i third
        rw [if_neg third, given]
    spaced
    named
    stored := held
    type
    fits := ⟨fitsRows, fitsColumns⟩
    shape := by rw [shape, Geometry.outShape, outHeight, outWidth]
    complete := convolve_sound fits
    reuses := type ▸ reuses
    entries := by
      intro sameType X W B readX readW isBias n batch o filter i row j column room
      rw [← outHeight] at row
      rw [← outWidth] at column
      rw [shape]
      exact convolve_entry fits sameType readX readW isBias batch filter row column room
    bytes := by
      intro inputs weights offsets
      obtain ⟨X, readX⟩ := exists_isRead inputs g.batch g.channels g.height g.width
      obtain ⟨W, readW⟩ := exists_isRead weights g.filters g.channels g.kernelHeight g.kernelWidth
      obtain ⟨B, isBias⟩ := exists_isBias offsets g.filters
      exact ⟨X, W, B, readX, readW, isBias⟩ }

/-- A convolution that succeeds has computed the convolution. -/
theorem convolution_computes (setting : Setting) (op : Operation) (ws : Workspace)
    (status : Option Status) (succeeds : (convolution setting op ws).result = .ok status) :
    ∃ x w bias g name y,
      Computes op ws (convolution setting op ws).workspace x w bias g name y := by
  have run := convolution_run setting op ws
  have found := convolved_convolved op ws
  generalize (convolution setting op ws).result = result,
    (convolution setting op ws).workspace = after at run succeeds ⊢
  generalize (convolved op ws).result = value at run found
  subst succeeds
  cases found with
  | rejected => cases run
  | unworded => cases run
  | cramped => cases run
  | tooLarge => cases run
  | unnamed => cases run
  | done x w bias g name y prepared room fits named =>
      have stored := store_stored name y ws
      obtain ⟨results, workspaces⟩ := Prod.mk.inj run
      subst workspaces
      generalize (store name y ws).result = ending at results stored
      cases ending with
      | error e => cases results
      | ok done => exact ⟨x, w, bias, g, name, y, computes_of_done prepared fits named stored⟩

def inPlace : Operation where
  type := "Conv"
  inputs := ["x", "w"]
  outputs := ["x"]
  fields := [("stride", .array [.int 1, .int 2]), ("pad", .array [.int 1, .int 0])]

def planeAndFilter : Workspace where
  entries := [("x", 0), ("w", 1)]
  handles := [.holding ⟨.char, [1, 2, 3], [200, 100, 50, 25, 12, 6]⟩,
    .holding ⟨.char, [1, 1, 2, 2], [1, 2, 3, 4]⟩]

theorem convolution_in_place_computes :
    (convolution ⟨{}, .ofContents fun _ => .error .notFound⟩ inPlace planeAndFilter).result =
      .ok (some .success) ∧
    ∃ x w bias g name y, Computes inPlace planeAndFilter
      (convolution ⟨{}, .ofContents fun _ => .error .notFound⟩ inPlace planeAndFilter).workspace
      x w bias g name y :=
  ⟨rfl, convolution_computes ⟨{}, .ofContents fun _ => .error .notFound⟩ inPlace planeAndFilter
    (some .success) rfl⟩

end TensorBundle.Handler

namespace TensorBundle

namespace Convolution

def Fits (g : Geometry) : Prop :=
  g.kernelHeight ≤ g.height + g.padding.top + g.padding.bottom ∧
    g.kernelWidth ≤ g.width + g.padding.left + g.padding.right

end Convolution

namespace Handler

open TensorBundle.Convolution

theorem windowCount_eq_zero_iff {total kernel stride : Nat} (apart : 0 < stride) :
    windowCount total kernel stride = 0 ↔ total < kernel := by
  constructor
  · intro none
    by_contra fits
    have positive : 0 ≤ Int.fdiv ((total : Int) - kernel) stride :=
      Int.fdiv_nonneg (by omega) (Int.natCast_nonneg stride)
    unfold windowCount at none
    omega
  · intro long
    by_contra some
    have fits := (windowCount_of_pos apart some).1
    omega

theorem convolve_isSome_iff {g : Geometry} (x w : Tensor) (bias : Option Tensor)
    (vertical : 0 < g.stride.vertical) (horizontal : 0 < g.stride.horizontal) :
    (convolve g x w bias).isSome = true ↔ Fits g := by
  have small : g.isTooSmall = true ↔ ¬ Fits g := by
    rw [Geometry.isTooSmall, Bool.or_eq_true, decide_eq_true_eq, decide_eq_true_eq,
      Geometry.outHeight, windowCount_eq_zero_iff vertical, Geometry.outWidth,
      windowCount_eq_zero_iff horizontal, paddedHeight_eq, paddedWidth_eq, Fits]
    omega
  unfold convolve
  by_cases places : g.isTooSmall = true
  · simpa [places] using small.mp places
  · simpa [places] using not_not.mp (mt small.mpr places)

section Spacing
variable {op : Operation} {stride : Stride} {padding : Padding}

theorem pair_of_form (key : Text) {values : List Int} (form : StrideForm values stride) :
    pair key values = .ok ((stride.vertical : Int), (stride.horizontal : Int)) := by
  cases form <;> rfl

theorem sides_of_form {values : List Int} (form : PaddingForm values padding) :
    sides values = .ok ((padding.top : Int), (padding.left : Int), (padding.bottom : Int),
      (padding.right : Int)) := by
  cases form <;> rfl

theorem strideAndPadding_eq_ok_iff :
    strideAndPadding op = .ok (stride, padding) ↔ Spaced op stride padding := by
  refine ⟨spaced_of_fields, ?_⟩
  rintro ⟨⟨strides, readStrides, strideForm⟩, ⟨pads, readPads, padForm⟩, vertical, horizontal⟩
  have valid : ¬ (min (stride.vertical : Int) stride.horizontal ≤ 0 ∨
      min (min (padding.top : Int) padding.left)
        (min (padding.bottom : Int) padding.right) < 0) := by
    omega
  simp only [strideAndPadding, readStrides, readPads, pair_of_form "stride" strideForm,
    sides_of_form padForm, bind, Except.bind, if_neg valid, Int.toNat_natCast]
  rfl

end Spacing

/-- Inputs and fields that a convolution takes, with the sizes that they give. -/
structure Sized (op : Operation) (ws : Workspace) (x w : Tensor) (g : Geometry) : Prop where
  input : foundInput op ws 0 = some x
  inputShape : x.shape = [g.batch, g.channels, g.height, g.width] ∨
    (g.batch = 1 ∧ x.shape = [g.channels, g.height, g.width])
  filters : foundInput op ws 1 = some w
  filterShape : w.shape = [g.filters, g.channels, g.kernelHeight, g.kernelWidth]
  bias : 2 < op.inputs.length → ∃ b, foundInput op ws 2 = some b ∧ numel b.shape = g.filters
  strides : ∃ values, op.FieldGives "stride" 1 values ∧ StrideForm values g.stride
  paddings : ∃ values, op.FieldGives "pad" 0 values ∧ PaddingForm values g.padding
  vertical : 0 < g.stride.vertical
  horizontal : 0 < g.stride.horizontal

/-- The domain of convolution. -/
def Accepts (op : Operation) (ws : Workspace) : Prop :=
  ∃ x w g, Sized op ws x w g ∧ Fits g ∧ op.outputs ≠ []

/-- There is memory for the arrays of a convolution. The tensor for the result may be there
already. -/
def Affords (op : Operation) (ws : Workspace) : Prop :=
  ∀ x w g, Sized op ws x w g → g.shortage? ws.available.working x.type = none ∧
    (Fits g → ∀ name, op.outputs.head? = some name →
      (∃ id, ws.Holds name x.type g.outShape id) ∨
        Tensor.canAllocate ws.available.tensor x.type g.outShape = true)

section Domain
variable {op : Operation} {ws : Workspace} {x w : Tensor} {g : Geometry}

theorem Sized.spaced (sized : Sized op ws x w g) : Spaced op g.stride g.padding where
  strides := by
    obtain ⟨values, gives, form⟩ := sized.strides
    exact ⟨values, (op.getInts_default_iff "stride" 1 values).mpr gives, form⟩
  paddings := by
    obtain ⟨values, gives, form⟩ := sized.paddings
    exact ⟨values, (op.getInts_default_iff "pad" 0 values).mpr gives, form⟩
  vertical := sized.vertical
  horizontal := sized.horizontal

theorem batched_of_shape (shape : x.shape = [g.batch, g.channels, g.height, g.width] ∨
    (g.batch = 1 ∧ x.shape = [g.channels, g.height, g.width])) :
    batched x.shape = .ok [g.batch, g.channels, g.height, g.width] := by
  rcases shape with shape | ⟨batch, shape⟩
  · rw [shape]
    rfl
  · rw [shape, batch]
    rfl

theorem prepared_of_sized (sized : Sized op ws x w g) : ∃ bias, Prepared op ws x w bias g := by
  have fields := strideAndPadding_eq_ok_iff.mpr sized.spaced
  have shape := batched_of_shape sized.inputShape
  by_cases third : 2 < op.inputs.length
  · obtain ⟨b, found, size⟩ := sized.bias third
    refine ⟨some b, sized.input, shape, sized.filters, sized.filterShape, ?_, fields, ?_⟩
    · rw [if_pos third]
      exact ⟨b, found, rfl⟩
    · rintro _ ⟨⟩
      exact size
  · refine ⟨none, sized.input, shape, sized.filters, sized.filterShape, ?_, fields, nofun⟩
    rw [if_neg third]

theorem sized_of_prepared {bias : Option Tensor} (prepared : Prepared op ws x w bias g) :
    Sized op ws x w g := by
  have spaced := spaced_of_fields prepared.fields
  obtain ⟨strides, readStrides, strideForm⟩ := spaced.strides
  obtain ⟨pads, readPads, padForm⟩ := spaced.paddings
  exact {
    input := prepared.input
    inputShape := shape_of_batched prepared.shape
    filters := prepared.filterInput
    filterShape := prepared.filterShape
    bias := by
      intro third
      have found := prepared.biasInput
      rw [if_pos third] at found
      obtain ⟨b, found, same⟩ := found
      exact ⟨b, found, prepared.biasSize b same⟩
    strides := ⟨strides, (op.getInts_default_iff "stride" 1 strides).mp readStrides, strideForm⟩
    paddings := ⟨pads, (op.getInts_default_iff "pad" 0 pads).mp readPads, padForm⟩
    vertical := spaced.vertical
    horizontal := spaced.horizontal }

theorem convolution_of_accepts (setting : Setting) (affords : Affords op ws)
    (accepts : Accepts op ws) : (convolution setting op ws).result = .ok (some .success) := by
  obtain ⟨x, w, g, sized, fits, some⟩ := accepts
  obtain ⟨bias, prepared⟩ := prepared_of_sized sized
  obtain ⟨room, place⟩ := affords x w g sized
  obtain ⟨y, result⟩ := Option.isSome_iff_exists.mp
    ((convolve_isSome_iff x w bias sized.vertical sized.horizontal).mpr fits)
  obtain ⟨name, rest, outputs⟩ := List.exists_cons_of_ne_nil some
  have first : op.outputs.head? = .some name := by rw [outputs, List.head?_cons]
  obtain ⟨type, shape, _⟩ := convolve_eq_some result
  have stored : (store name y ws).result = .ok () := by
    rw [stored_ok_iff (store_stored name y ws), type, shape]
    exact place fits name first
  have run := (Prod.ext_iff.mp (convolution_run setting op ws)).1
  rw [convolved_of_room prepared room result ((op.output_zero_iff name).mpr first)] at run
  dsimp only at run
  rw [run, stored]
  rfl

theorem rejected_of_not_accepts (setting : Setting) (affords : Affords op ws)
    (refused : ¬ Accepts op ws) (worded : ¬ Unworded op ws) :
    ∃ e : BundleError, e.isRejection = true ∧
      (convolution setting op ws).result = .error (.error e) := by
  have found := convolved_convolved op ws
  have run := (Prod.ext_iff.mp (convolution_run setting op ws)).1
  dsimp only at run
  generalize (convolved op ws).result = value at run found
  cases found with
  | rejected e rejection _ => exact ⟨e, rejection, run⟩
  | unworded bad => exact absurd bad worded
  | cramped x w bias g fault prepared short =>
      rw [(affords x w g (sized_of_prepared prepared)).1] at short
      cases short
  | tooLarge x w bias g e prepared room misfit rejection => exact ⟨e, rejection, run⟩
  | unnamed x w bias g y e prepared room fits nameless rejection => exact ⟨e, rejection, run⟩
  | done x w bias g name y prepared room fits named =>
      have sized := sized_of_prepared prepared
      have result := (convolve_isSome_iff x w bias sized.vertical sized.horizontal).mp
        (Option.isSome_iff_exists.mpr ⟨y, fits⟩)
      refine absurd ⟨x, w, g, sized, result, ?_⟩ refused
      intro none
      have first := (op.output_zero_iff name).mp named
      rw [none] at first
      cases first

theorem convolution_of_unworded (setting : Setting) (unworded : Unworded op ws) :
    (convolution setting op ws).result = .error (.fault .unwritableInteger) := by
  have run := (Prod.ext_iff.mp (convolution_run setting op ws)).1
  rwa [convolved_of_unworded unworded] at run

end Domain

def inPlaceSizes : Geometry where
  batch := 1
  channels := 1
  height := 2
  width := 3
  filters := 1
  kernelHeight := 2
  kernelWidth := 2
  stride := ⟨1, 2⟩
  padding := ⟨1, 0, 1, 0⟩

theorem inPlace_sized :
    Sized inPlace planeAndFilter ⟨.char, [1, 2, 3], [200, 100, 50, 25, 12, 6]⟩
      ⟨.char, [1, 1, 2, 2], [1, 2, 3, 4]⟩ inPlaceSizes where
  input := rfl
  inputShape := Or.inr ⟨rfl, rfl⟩
  filters := rfl
  filterShape := rfl
  bias := nofun
  strides := ⟨[1, 2], Or.inl rfl, .each 1 2⟩
  paddings := ⟨[1, 0], Or.inl rfl, .axes 1 0⟩
  vertical := by decide
  horizontal := by decide

theorem eq_of_inPlace_sized {x w : Tensor} {g : Geometry}
    (sized : Sized inPlace planeAndFilter x w g) : x.type = .char ∧ g = inPlaceSizes := by
  obtain ⟨bias, prepared⟩ := prepared_of_sized sized
  have input : foundInput inPlace planeAndFilter 0 =
      some ⟨.char, [1, 2, 3], [200, 100, 50, 25, 12, 6]⟩ := rfl
  have filters : foundInput inPlace planeAndFilter 1 =
      some ⟨.char, [1, 1, 2, 2], [1, 2, 3, 4]⟩ := rfl
  have fields : strideAndPadding inPlace = .ok (⟨1, 2⟩, ⟨1, 0, 1, 0⟩) := rfl
  cases input.symm.trans prepared.input
  cases filters.symm.trans prepared.filterInput
  have spacing := fields.symm.trans prepared.fields
  have shape := prepared.shape
  have filterShape := prepared.filterShape
  obtain ⟨batch, channels, height, width, count, kernelHeight, kernelWidth, stride, padding⟩ := g
  cases spacing
  cases shape
  cases filterShape
  exact ⟨rfl, rfl⟩

end Handler
end TensorBundle
