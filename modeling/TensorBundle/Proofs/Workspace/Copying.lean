import Mathlib
import TensorBundle.Proofs.Handler.Restoring
import TensorBundle.Proofs.Tensor.Elements
import TensorBundle.Tensor.Nested
/-!
Storing arrays. What is stored under a name is a copy of the array, with its axes in whatever order
they were: its bytes are gathered by strides, so that the element at an index whose positions have
been permuted is the element at that index, byte for byte. Arrays of other elements than those of
tensors are rejected.
-/
namespace TensorBundle

namespace Shape
variable {axes shape index : List Nat}

def permuted (axes items : List Nat) : List Nat := axes.map fun axis => items[axis]?.getD 0

theorem bounds_iff : Bounds shape index ↔ index.length = shape.length ∧
    ∀ axis < shape.length, index[axis]?.getD 0 < shape[axis]?.getD 0 := by
  unfold Bounds
  rw [List.forall₂_iff_get]
  refine and_congr_right fun same => ?_
  constructor
  · intro below axis inside
    have here := below axis (by omega) inside
    simpa [inside, same] using here
  · intro below axis _ inside
    have here := below axis inside
    simpa [inside, same] using here

theorem mem_axes_iff (perm : axes.Perm (List.range shape.length)) (axis : Nat) :
    axis ∈ axes ↔ axis < shape.length := by
  rw [perm.mem_iff, List.mem_range]

theorem bounds_permuted_iff (axes shape index : List Nat) :
    Bounds (permuted axes shape) (permuted axes index) ↔
      ∀ axis ∈ axes, index[axis]?.getD 0 < shape[axis]?.getD 0 := by
  unfold Bounds permuted
  rw [List.forall₂_map_left_iff, List.forall₂_map_right_iff, List.forall₂_same]

theorem bounds_permuted (perm : axes.Perm (List.range shape.length)) (inside : Bounds shape index) :
    Bounds (permuted axes shape) (permuted axes index) := by
  apply (bounds_permuted_iff axes shape index).mpr
  intro axis selected
  exact (bounds_iff.mp inside).2 axis ((mem_axes_iff perm axis).mp selected)

def unpermuted (axes : List Nat) (rank : Nat) (target : List Nat) : List Nat :=
  (List.range rank).map fun axis => target[axes.idxOf axis]?.getD 0

theorem permuted_unpermuted {rank : Nat} (perm : axes.Perm (List.range rank)) {target : List Nat}
    (count : target.length = axes.length) :
    permuted axes (unpermuted axes rank target) = target := by
  have distinct : axes.Nodup := perm.nodup_iff.mpr List.nodup_range
  refine List.ext_getElem (by simp [permuted, count]) fun k left right => ?_
  have listed : k < axes.length := by omega
  have known : axes[k] < rank := List.mem_range.mp (perm.mem_iff.mp (List.getElem_mem listed))
  -- No axis is listed twice, so that it is found where it stands.
  simp [permuted, unpermuted, known, distinct.idxOf_getElem k listed, right]

theorem exists_of_bounds_permuted (perm : axes.Perm (List.range shape.length)) {target : List Nat}
    (inside : Bounds (permuted axes shape) target) :
    ∃ index, Bounds shape index ∧ permuted axes index = target := by
  have count : target.length = axes.length := by
    rw [(bounds_iff.mp inside).1, permuted, List.length_map]
  have same := permuted_unpermuted perm count
  refine ⟨unpermuted axes shape.length target, bounds_iff.mpr ⟨by simp [unpermuted], ?_⟩, same⟩
  intro axis known
  rw [← same] at inside
  exact (bounds_permuted_iff axes shape _).mp inside axis ((mem_axes_iff perm axis).mpr known)

end Shape

namespace NumericArray

def offset (steps index : List Nat) : Nat := (List.zipWith (· * ·) index steps).sum

theorem offset_strides (shape : Shape) (index : List Nat) :
    offset (strides shape) index = shape.place index := by
  unfold offset
  induction shape generalizing index with
  | nil => cases index <;> simp [strides, Shape.place]
  | cons d shape ih =>
      cases index with
      | nil => rfl
      | cons i index => simp [strides, Shape.place, numel_eq_prod, ih]

theorem length_strides (shape : Shape) : (strides shape).length = shape.length := by
  induction shape with
  | nil => rfl
  | cons d shape ih => simp [strides, ih]

theorem places_eq (layout : List (Nat × Nat)) : places layout =
    (Shape.indices (layout.map Prod.fst)).map (offset (layout.map Prod.snd)) := by
  induction layout with
  | nil => rfl
  | cons axis layout ih =>
      simp only [places, ih, List.map_cons, Shape.indices, List.map_flatMap, List.map_map]
      rfl

theorem offset_permuted {axes steps index : List Nat} (perm : axes.Perm (List.range steps.length))
    (same : index.length = steps.length) :
    offset (Shape.permuted axes steps) (Shape.permuted axes index) = offset steps index := by
  unfold offset Shape.permuted
  rw [List.zipWith_map, List.zipWith_self, (perm.map _).sum_eq]
  congr 1
  refine List.ext_getElem (by simp [same]) fun axis left right => ?_
  have known : axis < steps.length := by simpa using left
  simp [known, same]

end NumericArray

namespace Tensor
variable {size : Nat}

theorem groups_flatten (positive : 0 < size) {blocks : List (List UInt8)}
    (even : ∀ block ∈ blocks, block.length = size) : groups size blocks.flatten = blocks := by
  lift blocks to List {block : List UInt8 // block.length = size} using even
  have grouped := groups_flatMap positive Subtype.val (fun block => block.property) blocks
  rwa [List.flatMap_def] at grouped

theorem exists_blocks {count : Nat} {bytes : List UInt8} (whole : bytes.length = count * size) :
    ∃ blocks : List (List UInt8), blocks.length = count ∧
      (∀ block ∈ blocks, block.length = size) ∧ bytes = blocks.flatten := by
  induction count generalizing bytes with
  | zero =>
      rw [Nat.zero_mul, List.length_eq_zero_iff] at whole
      exact ⟨[], rfl, nofun, whole⟩
  | succ count ih =>
      rw [Nat.add_mul, Nat.one_mul] at whole
      have rest : (bytes.drop size).length = count * size := by
        rw [List.length_drop, whole, Nat.add_sub_cancel]
      obtain ⟨blocks, length, even, flat⟩ := ih rest
      refine ⟨bytes.take size :: blocks, by rw [List.length_cons, length], ?_, ?_⟩
      · intro block listed
        rcases List.mem_cons.mp listed with rfl | later
        · rw [List.length_take, whole]
          exact Nat.min_eq_left (Nat.le_add_left size _)
        · exact even block later
      · rw [List.flatten_cons, ← flat, List.take_append_drop]

def bytesAt (type : DataType) (shape : Shape) (bytes : List UInt8) (index : List Nat) :
    Option (List UInt8) :=
  (groups type.size bytes)[shape.place index]?

theorem exists_bytesAt {type : DataType} {shape : Shape} {bytes : List UInt8}
    (whole : bytes.length = byteCount type shape) {index : List Nat}
    (inside : shape.Bounds index) :
    ∃ block, bytesAt type shape bytes index = some block ∧ block.length = type.size := by
  have positive : 0 < type.size := by cases type <;> decide
  obtain ⟨blocks, count, even, rfl⟩ := exists_blocks whole
  have listed : shape.place index < blocks.length := by
    rw [count, numel_eq_prod]
    exact Shape.place_lt inside
  refine ⟨blocks[shape.place index], ?_, even _ (List.getElem_mem listed)⟩
  rw [bytesAt, groups_flatten positive even, List.getElem?_eq_getElem listed]

end Tensor

namespace NumericArray
variable {a : NumericArray} {axes : List Nat} {type : DataType}

theorem transpose_shape (a : NumericArray) (axes : List Nat) :
    (a.transpose axes).shape = Shape.permuted axes a.shape := by
  unfold transpose
  cases a.type? <;> rfl

theorem transpose_elementName (a : NumericArray) (axes : List Nat) :
    (a.transpose axes).elementName = a.elementName := by
  unfold transpose
  cases a.type? <;> rfl

theorem transpose_type (a : NumericArray) (axes : List Nat) :
    (a.transpose axes).type? = a.type? := by
  rw [type?, transpose_elementName, type?]

def gathered (a : NumericArray) (type : DataType) (axes : List Nat) : List (List UInt8) :=
  (Shape.indices (Shape.permuted axes a.shape)).map fun target =>
    ((Tensor.groups type.size a.bytes)[offset (Shape.permuted axes (strides a.shape))
      target]?).getD []

theorem transpose_bytes (typed : a.type? = some type) (axes : List Nat) :
    (a.transpose axes).bytes = (a.gathered type axes).flatten := by
  simp only [transpose, typed, places_eq, List.map_map, List.flatMap_map, List.getElem?_toArray,
    Function.comp_def]
  rfl

section Gathered
variable (perm : axes.Perm (List.range a.shape.length)) {index : List Nat}
  (inside : a.shape.Bounds index)
include perm inside

/-- What the strides lead to for a permuted index is the element at the index. -/
theorem group_of_permuted (type : DataType) :
    (Tensor.groups type.size a.bytes)[offset (Shape.permuted axes (strides a.shape))
      (Shape.permuted axes index)]? = Tensor.bytesAt type a.shape a.bytes index := by
  have same := (Shape.bounds_iff.mp inside).1
  rw [← length_strides a.shape] at perm same
  rw [offset_permuted perm same, offset_strides, Tensor.bytesAt]

theorem getElem?_gathered (type : DataType) :
    (a.gathered type axes)[Shape.place (Shape.permuted axes a.shape) (Shape.permuted axes index)]? =
      some ((Tensor.bytesAt type a.shape a.bytes index).getD []) := by
  have listed := Shape.getElem?_indices (Shape.bounds_permuted perm inside)
  rw [gathered, List.getElem?_map, listed, Option.map_some, group_of_permuted perm inside]

end Gathered

theorem length_of_gathered (whole : a.bytes.length = Tensor.byteCount type a.shape)
    (perm : axes.Perm (List.range a.shape.length)) :
    ∀ block ∈ a.gathered type axes, block.length = type.size := by
  intro block listed
  obtain ⟨target, member, rfl⟩ := List.mem_map.mp listed
  obtain ⟨index, inside, rfl⟩ :=
    Shape.exists_of_bounds_permuted perm ((Shape.mem_indices_iff _ target).mp member)
  obtain ⟨element, present, length⟩ := Tensor.exists_bytesAt whole inside
  rw [group_of_permuted perm inside, present]
  exact length

/-- The element of a transposed array at a permuted index is that of the array at the index. -/
theorem bytesAt_transpose (typed : a.type? = some type) (complete : a.IsSound)
    (perm : axes.Perm (List.range a.shape.length)) {index : List Nat}
    (inside : a.shape.Bounds index) :
    Tensor.bytesAt type (a.transpose axes).shape (a.transpose axes).bytes
      (Shape.permuted axes index) = Tensor.bytesAt type a.shape a.bytes index := by
  have positive : 0 < type.size := by cases type <;> decide
  have whole := complete type typed
  obtain ⟨element, present, _⟩ := Tensor.exists_bytesAt whole inside
  rw [Tensor.bytesAt, transpose_bytes typed, transpose_shape,
    Tensor.groups_flatten positive (length_of_gathered whole perm), getElem?_gathered perm inside,
    present]
  rfl

theorem transpose_sound (complete : a.IsSound) (perm : axes.Perm (List.range a.shape.length)) :
    (a.transpose axes).IsSound := by
  intro type typed
  rw [transpose_type] at typed
  have even := length_of_gathered (complete type typed) perm
  have count : (a.gathered type axes).length = (Shape.permuted axes a.shape).prod := by
    rw [gathered, List.length_map, Shape.length_indices]
  rw [transpose_bytes typed, transpose_shape, Tensor.byteCount, numel_eq_prod, ← count,
    List.length_flatten, List.map_congr_left even]
  simp

end NumericArray

namespace DataType

theorem ofElementName_elementName (type : DataType) :
    ofElementName? type.elementName = some type := by
  cases type <;> decide

theorem ofElementName_swapped {code : Text} {type : DataType}
    (known : codes.lookup code = some type) (wide : type.size ≠ 1) :
    ofElementName? (Code.ofChar '>' :: code) = none := by
  rw [ofElementName?, if_pos rfl, known, Option.filter_some, if_neg (by simpa using wide)]

def nativeMarks : List Code := ['<', '=', '|'].map Code.ofChar

/-- A name of the elements of a type: a word, or a code, which may follow a mark. -/
inductive IsNamed (type : DataType) : Text → Prop where
  | plain (name : Text) (listed : (name, type) ∈ words ++ codes) : IsNamed type name
  | native (mark : Code) (code : Text) (isMark : mark ∈ nativeMarks)
      (listed : (code, type) ∈ codes) : IsNamed type (mark :: code)
  | swapped (code : Text) (listed : (code, type) ∈ codes) (narrow : type.size = 1) :
      IsNamed type (Code.ofChar '>' :: code)

theorem mem_of_lookup {entries : List (Text × DataType)} {name : Text} {type : DataType}
    (found : entries.lookup name = some type) : (name, type) ∈ entries := by
  obtain ⟨before, after, rfl, _⟩ := List.lookup_eq_some_iff.mp found
  simp

theorem ofElementName_eq_some_iff (name : Text) (type : DataType) :
    ofElementName? name = some type ↔ IsNamed type name := by
  constructor
  · intro known
    unfold ofElementName? at known
    split at known
    · rename_i mark code
      split_ifs at known with bigEndian isNative
      · obtain ⟨found, narrow⟩ := Option.filter_eq_some_iff.mp known
        rw [bigEndian]
        exact .swapped code (mem_of_lookup found) (beq_iff_eq.mp narrow)
      · refine .native mark code ?_ (mem_of_lookup known)
        simpa [nativeMarks] using isNative
      · exact .plain _ (mem_of_lookup known)
    · cases known
  · rintro (⟨_, listed⟩ | ⟨mark, code, isMark, listed⟩ | ⟨code, listed, narrow⟩)
    · have table : ∀ entry ∈ words ++ codes, ofElementName? entry.1 = some entry.2 := by decide
      exact table (name, type) listed
    · have looked : ofElementName? (mark :: code) = codes.lookup code := by
        simp only [nativeMarks, List.map_cons, List.map_nil, List.mem_cons, List.not_mem_nil,
          or_false] at isMark
        rcases isMark with rfl | rfl | rfl <;> rfl
      have table : ∀ entry ∈ codes, codes.lookup entry.1 = some entry.2 := by decide
      rw [looked]
      exact table (code, type) listed
    · have table : ∀ entry ∈ codes, entry.2.size = 1 →
          ofElementName? (Code.ofChar '>' :: entry.1) = some entry.2 := by decide
      exact table (code, type) listed narrow

example : ofElementName? "int32" = none ∧ ofElementName? "bool" = none := by decide

end DataType

namespace Workspace

/-- A tensor is a copy of an array with its axes in the given order: each element has the bytes that
it has in the array, at the index with its positions in that order, and there are no others. -/
structure Copies (a : NumericArray) (axes : List Nat) (type : DataType) (t : Tensor) : Prop where
  typed : t.type = type
  shape : t.shape = Shape.permuted axes a.shape
  complete : t.IsSound
  elements : ∀ index, a.shape.Bounds index → ∃ element, element.length = type.size ∧
    Tensor.bytesAt type a.shape a.bytes index = some element ∧
    Tensor.bytesAt type t.shape t.bytes (Shape.permuted axes index) = some element
  all : ∀ target, t.shape.Bounds target →
    ∃ index, a.shape.Bounds index ∧ Shape.permuted axes index = target

theorem copies_transpose {a : NumericArray} {axes : List Nat} {type : DataType}
    (typed : a.type? = some type) (complete : a.IsSound)
    (perm : axes.Perm (List.range a.shape.length)) :
    Copies a axes type ⟨type, (a.transpose axes).shape, (a.transpose axes).bytes⟩ where
  typed := rfl
  shape := a.transpose_shape axes
  complete := NumericArray.transpose_sound complete perm type (by rw [a.transpose_type, typed])
  elements index inside := by
    obtain ⟨element, present, length⟩ := Tensor.exists_bytesAt (complete type typed) inside
    refine ⟨element, length, present, ?_⟩
    rw [NumericArray.bytesAt_transpose typed complete perm inside, present]
  all target inside := by
    rw [a.transpose_shape] at inside
    exact Shape.exists_of_bounds_permuted perm inside

section Set
variable {ws : Workspace} {name : Text} {value : NumericArray} {type : DataType}

theorem set_stores (orderly : ws.Orderly) (typed : value.type? = some type)
    (room : (∃ id, ws.Holds name type value.shape id) ∨
      Tensor.canAllocate ws.available.tensor type value.shape = true) :
    ∃ id, (set name value ws).result = .ok id ∧
      (set name value ws).workspace.Gives name id ⟨type, value.shape, value.bytes⟩ ∧
      (ws.number? name = some id ↔ ∃ old, ws.Holds name type value.shape old) ∧
      ((∀ old, ¬ ws.Holds name type value.shape old) → ∀ old, ws.number? name = some old →
        (set name value ws).workspace.handle old = .empty) := by
  have obtained := obtain_obtained name type value.shape ws
  obtain ⟨id, result⟩ := (obtained_ok_iff obtained).mpr room
  rw [result] at obtained
  have run : (set name value ws).result = .ok id ∧ (set name value ws).workspace =
      (obtain name type value.shape ws).workspace.putHandle id
        (.holding ⟨type, value.shape, value.bytes⟩) := by
    simp only [set, typed, Action.bind_run]
    generalize obtain name type value.shape ws = outcome at result ⊢
    obtain ⟨_, after, log⟩ := outcome
    cases result
    exact ⟨rfl, rfl⟩
  rw [run.1, run.2]
  refine ⟨id, rfl, gives_of_obtained obtained _, number_of_obtained orderly obtained, ?_⟩
  intro missing old stored
  generalize (obtain name type value.shape ws).workspace = after at obtained ⊢
  cases obtained with
  | found _ holds => exact absurd holds (missing id)
  | made _ _ =>
      -- The handle that was made has the array at once, as if there had been no zeros in it.
      have put := putHandle_insertNew (ws.remove name) name (.holding (.zeros type value.shape))
        (.holding ⟨type, value.shape, value.bytes⟩)
      rw [length_remove] at put
      rw [put]
      exact released_of_replaced orderly _ stored

theorem set_unsupported (untyped : value.type? = none) : set name value ws =
    ⟨.error (.error (.validation .unsupportedElements (some name)
      (some "float32, float64 or uint8") (some value.elementName))), ws, []⟩ := by
  simp only [set, untyped]
  rfl

end Set

/-- What comes of storing an array with its axes in the given order. -/
structure Sets (a : NumericArray) (axes : List Nat) (name : Text) (ws : Workspace)
    (outcome : Outcome Nat) : Prop where
  stored : ∀ type, a.type? = some type →
    ((∃ id, ws.Holds name type (Shape.permuted axes a.shape) id) ∨
      Tensor.canAllocate ws.available.tensor type (Shape.permuted axes a.shape) = true) →
    ∃ id t, outcome.result = .ok id ∧ outcome.workspace.Gives name id t ∧ Copies a axes type t ∧
      (ws.number? name = some id ↔ ∃ old, ws.Holds name type (Shape.permuted axes a.shape) old) ∧
      ((∀ old, ¬ ws.Holds name type (Shape.permuted axes a.shape) old) →
        ∀ old, ws.number? name = some old → outcome.workspace.handle old = .empty)
  others : ∀ other, other ≠ name → ws.KeepsEntry other outcome.workspace
  known : ∀ type : DataType, a.type? = some type ↔ type.IsNamed a.elementName
  named : ∀ type : DataType, a.elementName = type.elementName → a.type? = some type
  swapped : ∀ code type, DataType.codes.lookup code = some type → type.size ≠ 1 →
    a.elementName = Code.ofChar '>' :: code → a.type? = none
  unsupported : a.type? = none → outcome =
    ⟨.error (.error (.validation .unsupportedElements (some name)
      (some "float32, float64 or uint8") (some a.elementName))), ws, []⟩

/-- Storing an array under a name leaves an exact copy of it there, in the handle that was there
exactly if that has the type and shape of the array, and all other names keep what they have. An
array whose elements no tensor has, be it for their byte order only, is rejected and nothing
changes. -/
theorem set_copies {ws : Workspace} (reachable : ws.Reachable) (name : Text) (a : NumericArray)
    (complete : a.IsSound) (axes : List Nat) (perm : axes.Perm (List.range a.shape.length)) :
    Sets a axes name ws (set name (a.transpose axes) ws) := by
  have orderly := orderly_of_reachable reachable
  have whole := NumericArray.transpose_sound complete perm
  exact {
    stored := by
      intro type typed room
      rw [← a.transpose_shape] at room ⊢
      obtain ⟨id, result, gives, reuses, releases⟩ :=
        set_stores orderly ((a.transpose_type axes).trans typed) room
      exact ⟨id, _, result, gives, copies_transpose typed complete perm, reuses, releases⟩
    others := fun other different =>
      effect_keepsEntry (set_effect name _ whole ws) orderly different
    known := DataType.ofElementName_eq_some_iff a.elementName
    named := by
      intro type same
      rw [NumericArray.type?, same, DataType.ofElementName_elementName]
    swapped := by
      intro code type known wide same
      rw [NumericArray.type?, same, DataType.ofElementName_swapped known wide]
    unsupported := by
      intro untyped
      rw [set_unsupported ((a.transpose_type axes).trans untyped), a.transpose_elementName] }

def twoRows : NumericArray :=
  ⟨"float32", [2, 3], (List.range 24).map UInt8.ofNat⟩

theorem set_copies_columns :
    let ws := ((Session.start [] []).moves
      [.call (.get "x" (some .float32) (some (.array [.int 3, .int 2])))]).workspace
    let outcome := set "x" (twoRows.transpose [1, 0]) ws
    ws.Reachable ∧ twoRows.IsSound ∧ [1, 0].Perm (List.range twoRows.shape.length) ∧
      ws.Holds "x" .float32 [3, 2] 0 ∧ outcome.result = .ok 0 ∧
      ∃ t, outcome.workspace.Gives "x" 0 t ∧ Copies twoRows [1, 0] .float32 t := by
  intro ws outcome
  have reachable : ws.Reachable := ⟨[], [], _, rfl⟩
  have typed : twoRows.type? = some .float32 := by decide
  have complete : twoRows.IsSound := by
    intro type same
    cases typed.symm.trans same
    decide
  have perm : [1, 0].Perm (List.range twoRows.shape.length) := by decide
  have there : ws.Holds "x" .float32 [3, 2] 0 :=
    ⟨by decide +kernel, .zeros .float32 [3, 2], by decide +kernel, rfl, rfl⟩
  have sets := set_copies reachable "x" twoRows complete [1, 0] perm
  obtain ⟨id, t, result, gives, copies, reuses, _⟩ :=
    sets.stored .float32 typed (Or.inl ⟨0, there⟩)
  cases there.1.symm.trans (reuses.mpr ⟨0, there⟩)
  exact ⟨reachable, complete, perm, there, result, t, gives, copies⟩

end Workspace
end TensorBundle
