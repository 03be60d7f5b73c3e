import Mathlib
import TensorBundle.Proofs.Binary
import TensorBundle.Proofs.Json.Legible
import TensorBundle.Proofs.Json.Members
import TensorBundle.Proofs.Session.Consistency
import TensorBundle.Proofs.Tensor.Elements
/-!
Getting a tensor or creating it: what a caller may rely on when it asks for a name with a type and
dimensions. A request that says too little or that gives no shape changes nothing; one that fits
what is there gives that; any other replaces it, or leaves the name free if there is no memory.
Where that error cannot say what was asked for, it ends in a fault.
-/
namespace TensorBundle.Workspace

def Gives (ws : Workspace) (name : Text) (id : Nat) (t : Tensor) : Prop :=
  (get name none none ws).result = .ok (some id) ∧ ws.handle id = .holding t

theorem gives_iff (ws : Workspace) (name : Text) (id : Nat) (t : Tensor) :
    ws.Gives name id t ↔ ws.number? name = some id ∧ ws.handle id = .holding t := by
  unfold Gives
  rw [get_plain, Except.ok.injEq]
  constructor
  · rintro ⟨found, held⟩
    exact ⟨number_of_lookup found, held⟩
  · rintro ⟨stored, held⟩
    refine ⟨Option.filter_eq_some_iff.mpr ⟨stored, ?_⟩, held⟩
    rw [held]
    rfl

section Delivers
variable {ws : Workspace} {name : Text}

def Delivers (ws : Workspace) (name : Text) : Prop := ∃ id t, ws.Gives name id t

/-- A name is stored, and its handle is empty. -/
def Hollow (ws : Workspace) (name : Text) : Prop :=
  ∃ id, ws.number? name = some id ∧ (ws.handle id).isEmpty = true

theorem tensor_eq_some_iff (t : Tensor) :
    ws.tensor? name = some t ↔ ∃ id, ws.Gives name id t := by
  unfold tensor?
  rw [Option.bind_eq_some_iff]
  constructor
  · rintro ⟨id, stored, held⟩
    exact ⟨id, (gives_iff ws name id t).mpr ⟨stored, Handle.eq_holding held⟩⟩
  · rintro ⟨id, gives⟩
    obtain ⟨stored, held⟩ := (gives_iff ws name id t).mp gives
    exact ⟨id, stored, by rw [held]; rfl⟩

theorem delivers_of_tensor {t : Tensor} (there : ws.tensor? name = some t) : ws.Delivers name := by
  obtain ⟨id, gives⟩ := (tensor_eq_some_iff t).mp there
  exact ⟨id, t, gives⟩

theorem delivers_iff_not_hollow (stored : ws.contains name = true) :
    ws.Delivers name ↔ ¬ ws.Hollow name := by
  obtain ⟨id, number⟩ := Option.isSome_iff_exists.mp stored
  constructor
  · rintro ⟨found, t, gives⟩ ⟨other, again, empty⟩
    obtain ⟨there, held⟩ := (gives_iff ws name found t).mp gives
    cases there.symm.trans again
    rw [held] at empty
    cases empty
  · intro whole
    have filled : (ws.handle id).isEmpty = false := by
      by_contra empty
      exact whole ⟨id, number, Bool.not_eq_false _ ▸ empty⟩
    obtain ⟨t, held⟩ := (Handle.not_isEmpty_iff (ws.handle id)).mp filled
    exact ⟨id, t, (gives_iff ws name id t).mpr ⟨number, held⟩⟩

theorem not_hollow_of_sound (sound : ws.Sound) (name : Text) : ¬ ws.Hollow name := by
  rintro ⟨id, stored, empty⟩
  obtain ⟨t, held, _⟩ := sound.stored name id stored
  rw [held] at empty
  cases empty

end Delivers

/-- A request of a type and a shape, given by a document. -/
def Asks (type : Option DataType) (dimensions : Option Json) (elements : DataType) (shape : Shape) :
    Prop :=
  type = some elements ∧
    ∃ document, dimensions = some document ∧ Shape.ofJson document = .ok (shape.map Int.ofNat)

/-- What comes of asking for a name with a type and dimensions. -/
structure Gets (name : Text) (type : Option DataType) (dimensions : Option Json) (ws : Workspace)
    (outcome : Outcome (Option Nat)) : Prop where
  incomplete : type.isSome ≠ dimensions.isSome →
    outcome.result = .error (.error (.validation .typeOrShapeMissing (some name) none none)) ∧
      outcome.workspace = ws
  unreadable : ∀ document fault, type.isSome = true → dimensions = some document →
    Shape.ofJson document = .error fault →
      outcome.result = .error (.fault fault) ∧ outcome.workspace = ws
  negative : ∀ document sizes, type.isSome = true → dimensions = some document →
    Shape.ofJson document = .ok sizes → (∃ d ∈ sizes, d < 0) →
      (∀ d ∈ sizes, Text.isWritable d = true) →
        outcome.result = .error (.error (.validation .negativeDimension (some name) none
          (some (Text.bracketed (sizes.map Text.integer))))) ∧ outcome.workspace = ws
  unworded : ∀ document sizes, type.isSome = true → dimensions = some document →
    Shape.ofJson document = .ok sizes → (∃ d ∈ sizes, d < 0) →
      (∃ d ∈ sizes, Text.isWritable d = false) →
        outcome.result = .error (.fault .unwritableInteger) ∧ outcome.workspace = ws ∧
          ∀ text, Json.read text ≠ .ok document
  reused : ∀ elements shape id, Asks type dimensions elements shape →
    ws.Holds name elements shape id → outcome.result = .ok (some id) ∧ outcome.workspace = ws
  renewed : ∀ elements shape, Asks type dimensions elements shape →
    (∀ id, ¬ ws.Holds name elements shape id) →
      (∃ id, outcome.result = .ok (some id) ∧ ws.handles.length ≤ id ∧
        outcome.workspace.Gives name id
          ⟨elements, shape, List.replicate (numel shape * elements.size) 0⟩ ∧
        ∀ old, ws.number? name = some old → outcome.workspace.handle old = .empty) ∨
      (Tensor.canAllocate ws.available.tensor elements shape = false ∧
        outcome.result = .error (allocationFailure name elements shape) ∧
        ws.DropsEntry name outcome.workspace)
  others : ∀ other, other ≠ name → ws.KeepsEntry other outcome.workspace
  again : ∀ id, outcome.result = .ok (some id) →
    (get name type dimensions outcome.workspace).result = .ok (some id) ∧
      (get name type dimensions outcome.workspace).workspace = outcome.workspace

section Requests
variable {type : Option DataType} {dimensions : Option Json} {elements : DataType}
  {shape : Shape} (name : Text) (ws : Workspace)

theorem get_incomplete (partly : type.isSome ≠ dimensions.isSome) :
    get name type dimensions ws =
      ⟨.error (.error (.validation .typeOrShapeMissing (some name) none none)), ws, []⟩ := by
  cases type <;> cases dimensions
  · exact absurd rfl partly
  · rfl
  · rfl
  · exact absurd rfl partly

theorem get_unreadable {document : Json} {fault : Fault}
    (unread : Shape.ofJson document = .error fault) :
    get name (some elements) (some document) ws = ⟨.error (.fault fault), ws, []⟩ := by
  simp only [get, Action.bind_run, Action.ofExcept_run, unread, Except.mapError,
    Outcome.andThen_error]

theorem get_negative {document : Json} {sizes : List Int}
    (read : Shape.ofJson document = .ok sizes) (below : ∃ d ∈ sizes, d < 0) :
    get name (some elements) (some document) ws =
      ⟨.error (negativeFailure name sizes), ws, []⟩ := by
  simp only [get, Action.bind_run, Action.ofExcept_run, read, Except.mapError, Outcome.andThen_ok,
    (Shape.ofInts_eq_none_iff sizes).mpr below, Action.fail_run]
  rfl

theorem negativeFailure_of_written {sizes : List Int}
    (written : ∀ d ∈ sizes, Text.isWritable d = true) :
    negativeFailure name sizes = .error (.validation .negativeDimension (some name) none
      (some (Text.bracketed (sizes.map Text.integer)))) :=
  if_pos (List.all_eq_true.mpr written)

theorem negativeFailure_of_unwritten {sizes : List Int}
    (unwritten : ∃ d ∈ sizes, Text.isWritable d = false) :
    negativeFailure name sizes = .fault .unwritableInteger := by
  apply if_neg
  simpa using unwritten

theorem get_of_asks (asks : Asks type dimensions elements shape) :
    (get name type dimensions ws).result =
        (obtain name elements shape ws).result.map some ∧
      (get name type dimensions ws).workspace = (obtain name elements shape ws).workspace := by
  obtain ⟨rfl, document, rfl, read⟩ := asks
  simp only [get, Action.bind_run, Action.ofExcept_run, read, Except.mapError, Outcome.andThen_ok,
    (Shape.ofInts_eq_some_iff _ shape).mpr rfl, Action.map_run, Outcome.result_logged,
    Outcome.workspace_logged]
  generalize obtain name elements shape ws = outcome
  obtain ⟨_ | id, after, log⟩ := outcome
  · exact ⟨rfl, rfl⟩
  · exact ⟨rfl, rfl⟩

theorem request_cases (type : Option DataType) (dimensions : Option Json) :
    (type = none ∧ dimensions = none) ∨ type.isSome ≠ dimensions.isSome ∨
      ∃ elements document, type = some elements ∧ dimensions = some document ∧
        ((∃ fault, Shape.ofJson document = .error fault) ∨
          (∃ sizes, Shape.ofJson document = .ok sizes ∧ ∃ d ∈ sizes, d < 0) ∨
          ∃ shape, Asks type dimensions elements shape) := by
  cases type with
  | none => cases dimensions <;> simp
  | some elements =>
      cases dimensions with
      | none => simp
      | some document =>
          refine Or.inr (Or.inr ⟨elements, document, rfl, rfl, ?_⟩)
          cases read : Shape.ofJson document with
          | error fault => exact Or.inl ⟨fault, rfl⟩
          | ok sizes =>
              cases made : Shape.ofInts? sizes with
              | none => exact Or.inr (Or.inl ⟨sizes, rfl, (Shape.ofInts_eq_none_iff sizes).mp made⟩)
              | some shape =>
                  have same := (Shape.ofInts_eq_some_iff sizes shape).mp made
                  exact Or.inr (Or.inr ⟨shape, rfl, document, rfl, same ▸ read⟩)

theorem obtain_again {id : Nat} (done : (obtain name elements shape ws).result = .ok id) :
    (obtain name elements shape (obtain name elements shape ws).workspace).result = .ok id ∧
      (obtain name elements shape (obtain name elements shape ws).workspace).workspace =
        (obtain name elements shape ws).workspace := by
  have obtained := obtain_obtained name elements shape ws
  rw [done] at obtained
  exact obtain_of_holds name elements shape _ id (obtained_holds obtained)

/-- Asking again for what was given gives the same and changes nothing. -/
theorem get_again {id : Nat} (given : (get name type dimensions ws).result = .ok (some id)) :
    (get name type dimensions (get name type dimensions ws).workspace).result = .ok (some id) ∧
      (get name type dimensions (get name type dimensions ws).workspace).workspace =
        (get name type dimensions ws).workspace := by
  rcases request_cases type dimensions with ⟨rfl, rfl⟩ | partly | ⟨elements, document, rfl, rfl,
    ⟨fault, unread⟩ | ⟨sizes, read, below⟩ | ⟨shape, asks⟩⟩
  · exact ⟨given, rfl⟩
  · rw [get_incomplete name ws partly] at given
    cases given
  · rw [get_unreadable name ws unread] at given
    cases given
  · rw [get_negative name ws read below] at given
    cases given
  · obtain ⟨result, workspace⟩ := get_of_asks name ws asks
    obtain ⟨resultThen, workspaceThen⟩ :=
      get_of_asks name (get name (some elements) (some document) ws).workspace asks
    have done : (obtain name elements shape ws).result = .ok id := by
      rw [given] at result
      cases first : (obtain name elements shape ws).result with
      | error e =>
          rw [first] at result
          cases result
      | ok other =>
          rw [first] at result
          cases result
          rfl
    obtain ⟨same, kept⟩ := obtain_again name ws done
    rw [resultThen, workspaceThen, workspace, same, kept]
    exact ⟨rfl, rfl⟩

theorem get_renews (orderly : ws.Orderly) (asks : Asks type dimensions elements shape)
    (missing : ∀ id, ¬ ws.Holds name elements shape id) :
    let outcome := get name type dimensions ws
    (∃ id, outcome.result = .ok (some id) ∧ ws.handles.length ≤ id ∧
      outcome.workspace.Gives name id
        ⟨elements, shape, List.replicate (numel shape * elements.size) 0⟩ ∧
      ∀ old, ws.number? name = some old → outcome.workspace.handle old = .empty) ∨
    (Tensor.canAllocate ws.available.tensor elements shape = false ∧
      outcome.result = .error (allocationFailure name elements shape) ∧
      ws.DropsEntry name outcome.workspace) := by
  obtain ⟨result, workspace⟩ := get_of_asks name ws asks
  have obtained := obtain_obtained name elements shape ws
  dsimp only
  rw [result, workspace]
  generalize (obtain name elements shape ws).result = made,
    (obtain name elements shape ws).workspace = after at obtained ⊢
  cases obtained with
  | found id holds => exact absurd holds (missing id)
  | made _ room =>
      left
      have stored := number_insertNew_self (ws.remove name) name (.holding (.zeros elements shape))
        (number_remove_self ws name)
      have held := handle_insertNew_self (ws.remove name) name (.holding (.zeros elements shape))
      rw [length_remove] at stored held
      refine ⟨ws.handles.length, rfl, le_rfl, (gives_iff _ name _ _).mpr ⟨stored, held⟩, ?_⟩
      intro old storedBefore
      exact released_of_replaced orderly _ storedBefore
  | refused _ full => exact Or.inr ⟨full, rfl, dropsEntry_remove name⟩

end Requests

end TensorBundle.Workspace

namespace TensorBundle

namespace BundleError

/-- The least count of bytes that is beyond the floating-point numbers when it is divided into units
of 2^20 bytes. -/
def reportLimit : Nat := (2 ^ 54 - 1) * 2 ^ 990

theorem limit_double : Binary.double.limit * 1048576 = reportLimit := by
  have unit : 1048576 = 2 ^ 20 := by norm_num
  have precision : 2 * 2 ^ Binary.double.precision = 2 ^ 54 := by decide
  have exponent : Binary.double.greatest.toNat - 1 + 20 = 990 := by decide
  rw [Binary.Format.limit, precision, unit, Nat.mul_assoc, ← pow_add, exponent, reportLimit]

theorem reportLimit_le : reportLimit ≤ 2 ^ 1044 := by
  have parts := pow_add 2 54 990
  rw [show 54 + 990 = 1044 from rfl] at parts
  rw [parts]
  exact Nat.mul_le_mul_right _ (Nat.sub_le _ _)

theorem addressLimit_le_reportLimit : Tensor.addressLimit ≤ reportLimit := by
  have smaller : 2 ^ 63 ≤ 2 ^ 990 := by gcongr <;> decide
  have times : 0 < 2 ^ 54 - 1 := by norm_num
  rw [show Tensor.addressLimit = 2 ^ 63 from rfl, reportLimit]
  exact smaller.trans (Nat.le_mul_of_pos_left (2 ^ 990) times)

theorem megabytes_eq_none_iff (bytes : Nat) :
    megabytes? bytes = none ↔ reportLimit ≤ bytes := by
  have positive : (decide ((bytes : Int) < 0)) = false :=
    decide_eq_false (not_lt.mpr (Int.natCast_nonneg bytes))
  have beyond := Binary.Format.ofRatio_infinite_iff Binary.Format.double_isRegular
    (by decide) false bytes (show 0 < 1048576 by decide)
  rw [limit_double] at beyond
  rw [← beyond, megabytes?, positive, Int.natAbs_natCast]
  cases quotient : Binary.double.ofRatio false bytes 1048576 with
  | nan => exact absurd quotient (Binary.Format.roundFinite_ne_nan _ _ _ _)
  | infinite sign => simp
  | finite negative m q => simp

end BundleError

namespace Tensor

theorem canAllocate_of_addressLimit (room : Room) {type : DataType} {shape : Shape}
    (huge : addressLimit ≤ byteCount type shape) : canAllocate room type shape = false := by
  have some : 0 < byteCount type shape := lt_of_lt_of_le (Nat.two_pow_pos 63) huge
  have counted : shape.filter (· ≠ 0) = shape := by
    apply List.filter_eq_self.mpr
    intro d member
    apply decide_eq_true
    rintro rfl
    have none : byteCount type shape = 0 := by
      rw [byteCount, numel_eq_prod, List.prod_eq_zero member, Nat.zero_mul]
    omega
  unfold byteCount at huge
  unfold canAllocate shortage?
  rw [counted, if_pos huge]
  split
  · rfl
  · split <;> rfl

theorem canAllocate_of_unwritten (room : Room) (type : DataType) {shape : Shape}
    (unwritten : ∃ d ∈ shape, Text.isWritable d = false) :
    canAllocate room type shape = false := by
  have beyond : shape.any (addressLimit ≤ ·) = true := by
    obtain ⟨d, listed, bad⟩ := unwritten
    refine List.any_eq_true.mpr ⟨d, listed, decide_eq_true ?_⟩
    by_contra below
    have within : 63 ≤ Text.digitLimit := by decide
    have writable := Text.isWritable_of_le_two_pow (n := d) within (not_le.mp below).le
    rw [writable] at bad
    cases bad
  unfold canAllocate shortage?
  rw [beyond]
  split <;> rfl

end Tensor

namespace Workspace

section Requests
variable (ws : Workspace) (name : Text) (type : DataType) (shape : Shape)

theorem unreportable_iff (fault : Fault) : Unreportable ws name type shape fault ↔
    (∀ id, ¬ ws.Holds name type shape id) ∧
      ((fault = .unwritableInteger ∧ ∃ d ∈ shape, Text.isWritable d = false) ∨
        (fault = .quotientBeyondFloat ∧ (∀ d ∈ shape, Text.isWritable d = true) ∧
          BundleError.reportLimit ≤ Tensor.byteCount type shape)) := by
  rw [← BundleError.megabytes_eq_none_iff]
  constructor
  · intro unreportable
    exact ⟨unreportable.missing, unreportable.unsaid⟩
  · rintro ⟨missing, unsaid⟩
    refine ⟨missing, ?_, unsaid⟩
    rcases unsaid with ⟨_, unwritten⟩ | ⟨_, _, huge⟩
    · exact Tensor.canAllocate_of_unwritten ws.available.tensor type unwritten
    · have limit := (BundleError.megabytes_eq_none_iff _).mp huge
      exact Tensor.canAllocate_of_addressLimit ws.available.tensor
        (BundleError.addressLimit_le_reportLimit.trans limit)

theorem allocationFailure_cases :
    (∃ megabytes, allocationFailure name type shape =
      .error (.memory (.tensor name shape) (some megabytes) (some name))) ∨
      ∃ fault, allocationFailure name type shape = .fault fault := by
  by_cases written : ∀ d ∈ shape, Text.isWritable d = true
  · rw [allocationFailure_of_written name type written]
    cases BundleError.megabytes? (Tensor.byteCount type shape) with
    | none => exact Or.inr ⟨_, rfl⟩
    | some megabytes => exact Or.inl ⟨megabytes, rfl⟩
  · have unwritten : ∃ d ∈ shape, Text.isWritable d = false := by simpa using written
    exact Or.inr ⟨_, allocationFailure_of_unwritten name type unwritten⟩

theorem asks_ints :
    Asks (some type) (some (.array (shape.map fun d : Nat => .int d))) type shape := by
  refine ⟨rfl, _, rfl, ?_⟩
  have read := Shape.ofJson_ints (shape.map Int.ofNat)
  rwa [List.map_map] at read

theorem get_fault_iff (fault : Fault) :
    (get name (some type) (some (.array (shape.map fun d : Nat => .int d))) ws).result =
        .error (.fault fault) ↔
      (∀ id, ¬ ws.Holds name type shape id) ∧
        ((fault = .unwritableInteger ∧ ∃ d ∈ shape, Text.isWritable d = false) ∨
          (fault = .quotientBeyondFloat ∧ (∀ d ∈ shape, Text.isWritable d = true) ∧
            BundleError.reportLimit ≤ Tensor.byteCount type shape)) := by
  have obtained := obtain_obtained name type shape ws
  rw [(get_of_asks name ws (asks_ints type shape)).1, ← unreportable_iff,
    ← obtained_fault_iff obtained fault]
  cases (obtain name type shape ws).result <;> simp [Except.map]

end Requests

/-- Getting a tensor of any dimensions, of any size and rank, gives a handle of the type and the
shape, or is the error that there is no memory for it, but for two conditions. If no such tensor is
there it ends in a fault where the bytes reach the limit of what can be reported, or where a
dimension cannot even be written out. -/
theorem get_ends (ws : Workspace) (name : Text) (type : DataType) (shape : Shape) :
    let outcome := get name (some type) (some (.array (shape.map fun d : Nat => .int d))) ws
    ((∃ id, outcome.result = .ok (some id) ∧ outcome.workspace.Holds name type shape id) ∨
      (∃ e megabytes, outcome.result = .error (.error e) ∧ e.code = .outOfMemory ∧
        e = .memory (.tensor name shape) (some megabytes) (some name)) ∨
      outcome.result = .error (.fault .quotientBeyondFloat) ∨
      outcome.result = .error (.fault .unwritableInteger)) ∧
    (outcome.result = .error (.fault .quotientBeyondFloat) ↔
      (∀ id, ¬ ws.Holds name type shape id) ∧ (∀ d ∈ shape, Text.isWritable d = true) ∧
        BundleError.reportLimit ≤ Tensor.byteCount type shape) ∧
    (outcome.result = .error (.fault .unwritableInteger) ↔
      (∀ id, ¬ ws.Holds name type shape id) ∧ ∃ d ∈ shape, Text.isWritable d = false) := by
  intro outcome
  refine ⟨?_, (get_fault_iff ws name type shape _).trans (by simp),
    (get_fault_iff ws name type shape _).trans (by simp)⟩
  obtain ⟨result, workspace⟩ := get_of_asks name ws (asks_ints type shape)
  have faults := get_fault_iff ws name type shape
  have obtained := obtain_obtained name type shape ws
  rw [result] at faults
  rw [result, workspace]
  generalize (obtain name type shape ws).result = made,
    (obtain name type shape ws).workspace = after at obtained faults ⊢
  cases made with
  | ok id => exact Or.inl ⟨id, rfl, obtained_holds obtained⟩
  | error failure =>
      cases obtained with
      | refused missing full =>
          rcases allocationFailure_cases name type shape with ⟨megabytes, same⟩ | ⟨fault, same⟩
          · exact Or.inr (Or.inl ⟨_, megabytes, congrArg Except.error same, rfl, rfl⟩)
          · have failed : (Except.error (allocationFailure name type shape) :
                Except Failure (Option Nat)) = .error (.fault fault) := congrArg Except.error same
            rcases ((faults fault).mp failed).2 with ⟨rfl, _⟩ | ⟨rfl, _⟩
            · exact Or.inr (Or.inr (Or.inr failed))
            · exact Or.inr (Or.inr (Or.inl failed))

theorem get_beyond_float :
    (get "x" (some .char) (some (.array ([2 ^ 1044].map fun d : Nat => .int d))) {}).result =
      .error (.fault .quotientBeyondFloat) := by
  apply (get_fault_iff {} "x" .char [2 ^ 1044] _).mpr
  refine ⟨?_, Or.inr ⟨rfl, ?_, ?_⟩⟩
  · rintro id ⟨stored, _⟩
    cases stored
  · intro d listed
    have same : d = 2 ^ 1044 := List.mem_singleton.mp listed
    have within : 1044 ≤ Text.digitLimit := by decide
    have small : (d : Int).natAbs ≤ 2 ^ 1044 := by rw [Int.natAbs_natCast, same]
    exact Text.isWritable_of_le_two_pow within small
  · have bytes : Tensor.byteCount .char [2 ^ 1044] = 2 ^ 1044 := by
      rw [Tensor.byteCount, numel_eq_prod, List.prod_singleton,
        show DataType.char.size = 1 from rfl, Nat.mul_one]
    rw [bytes]
    exact BundleError.reportLimit_le

end Workspace
end TensorBundle
