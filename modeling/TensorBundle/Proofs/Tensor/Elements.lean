import Mathlib
import TensorBundle.Handler
import TensorBundle.Proofs.Binary
import TensorBundle.Tensor.Basic
/-!
Tensors by their bytes, their elements and their indices. The bytes of the tensors that are made are
as many as the type and the shape say. Each type keeps the integers that it has room for, and a
tensor gives back the elements that it was made of. In row-major order the places of all indices are
the numbers below the count of elements, each once.
-/
namespace TensorBundle

theorem foldl_mul_eq (start : Nat) (dimensions : List Nat) :
    dimensions.foldl (· * ·) start = start * dimensions.prod := by
  induction dimensions generalizing start with
  | nil => simp
  | cons d rest ih => rw [List.foldl_cons, ih, List.prod_cons, Nat.mul_assoc]

theorem numel_eq_prod (dimensions : List Nat) : numel dimensions = dimensions.prod := by
  rw [numel, foldl_mul_eq, Nat.one_mul]

theorem length_bytesOfNat (count n : Nat) : (Bytes.ofNat count n).length = count := by
  induction count generalizing n with
  | zero => rfl
  | succ count ih => rw [Bytes.ofNat, List.length_cons, ih]

@[simp] theorem length_encode (type : DataType) (x : Binary) :
    (type.encode x).length = type.size := by
  unfold DataType.encode
  split <;> exact length_bytesOfNat type.size _

namespace Tensor

theorem length_ofElements (type : DataType) (shape : Shape) (elements : List Binary) :
    (ofElements type shape elements).bytes.length = elements.length * type.size := by
  simp [ofElements, List.length_flatMap]

theorem ofElements_sound (type : DataType) (shape : Shape) (elements : List Binary)
    (count : elements.length = numel shape) : (ofElements type shape elements).IsSound := by
  unfold IsSound byteCount
  rw [length_ofElements, count]
  rfl

theorem length_overwrite (bytes written : List UInt8) (offset : Nat)
    (room : offset + written.length ≤ bytes.length) :
    (overwrite bytes offset written).length = bytes.length := by
  simp only [overwrite, List.length_append, List.length_take, List.length_drop]
  omega

end Tensor

namespace Convolution

theorem length_outElements (g : Geometry) (f : Nat → Nat → Nat → Nat → Binary) :
    (g.outElements f).length = numel g.outShape := by
  simp [Geometry.outElements, Geometry.outShape, numel_eq_prod, List.length_flatMap]

theorem convolve_sound {g : Geometry} {x filters result : Tensor} {bias : Option Tensor}
    (convolved : convolve g x filters bias = some result) : result.IsSound := by
  unfold convolve at convolved
  split at convolved
  · cases convolved
  · cases convolved
    exact Tensor.ofElements_sound x.type g.outShape _ (length_outElements g _)

end Convolution

namespace Handler

theorem length_plane (image : Image) (color : Pixel → UInt8) :
    (plane image color).length = image.height * image.width := by
  rw [plane, List.length_map, image.length_pixels]

theorem length_imageElements (type : DataType) (image : Image) (average : Option (List Binary))
    (three : ∀ values, average = some values → values.length = 3) :
    (imageElements type image average).length = 3 * (image.height * image.width) := by
  cases average with
  | none =>
      simp only [imageElements, planes, List.flatten_cons, List.flatten_nil, List.length_append,
        List.length_nil, length_plane]
      omega
  | some values =>
      obtain ⟨a, b, c, rfl⟩ := List.length_eq_three.mp (three values rfl)
      simp only [imageElements, planes, List.zip_cons_cons, List.zip_nil_right, List.flatMap_cons,
        List.flatMap_nil, List.length_append, List.length_map, List.length_nil, length_plane]
      omega

theorem imageTensor_sound (type : DataType) (image : Image) (average : Option (List Binary))
    (three : ∀ values, average = some values → values.length = 3) :
    (imageTensor type image average).IsSound := by
  apply Tensor.ofElements_sound
  rw [length_imageElements type image average three, numel_eq_prod]
  simp

end Handler

namespace Handle

theorem write_holding {h after : Handle} {offset : Int} {written : List UInt8}
    (done : h.write offset written = .ok after) :
    ∃ old new : Tensor, h = .holding old ∧ after = .holding new ∧ new.type = old.type ∧
      new.shape = old.shape ∧ new.bytes.length = old.bytes.length := by
  cases h with
  | vacant type shape => cases done
  | holding old =>
      unfold write at done
      by_cases viewable : isViewable old.shape = true
      · simp only [view, viewable, if_true] at done
        change (if _ then _ else _) = _ at done
        split at done
        · rename_i fits
          cases done
          refine ⟨old, _, rfl, rfl, rfl, rfl, ?_⟩
          apply Tensor.length_overwrite
          unfold place at fits ⊢
          split at fits <;> split at fits <;> split <;> omega
        · cases done
      · simp [view, viewable] at done
        cases done

end Handle

theorem Binary.truncate_of_integer {x : Binary} {n : Int} (integer : x.value? = some (n : ℚ)) :
    x.truncate? = some n := by
  obtain ⟨negative, m, q, rfl, value⟩ := Binary.finite_of_value integer
  have magnitude : (m : ℚ) * 2 ^ q = ((if negative then -n else n : Int) : ℚ) := by
    cases negative <;> simp [value]
  have absolute :
      ((if 0 ≤ q then m * Nat.pow 2 q.toNat else m / Nat.pow 2 (-q).toNat : Nat) : Int) =
        if negative then -n else n := by
    by_cases whole : 0 ≤ q
    · simp only [whole, if_true, Nat.pow_eq]
      have power : (2 : ℚ) ^ q = 2 ^ q.toNat := by
        rw [← zpow_natCast]
        congr 1
        omega
      rw [power] at magnitude
      exact_mod_cast magnitude
    · simp only [whole, if_false, Nat.pow_eq]
      -- Nothing is cut off, as an integer leaves no rest.
      obtain ⟨k, rfl⟩ := Binary.Format.dvd_of_integer magnitude (not_le.mp whole) le_rfl
      rw [zero_sub, Nat.mul_div_cancel_left k (Nat.two_pow_pos _)]
      have power : (2 : ℚ) ^ (-q).toNat * 2 ^ q = 1 := by
        rw [← zpow_natCast, ← zpow_add₀ two_ne_zero]
        have cancelled : ((-q).toNat : Int) + q = 0 := by omega
        rw [cancelled, zpow_zero]
      rw [zero_sub] at magnitude
      push_cast at magnitude
      rw [mul_right_comm, power, one_mul] at magnitude
      exact_mod_cast magnitude
  simp only [Binary.truncate?, absolute]
  cases negative <;> simp

namespace DataType

/-- The integer that a type has in place of an integer: bytes are counted modulo 256. -/
def wrap : DataType → Int → Int
  | .char, n => n % 256
  | _, n => n

/-- Whether a type has room for an integer: floating-point numbers have for those of as many bits as
their significands. -/
def HasRoom (type : DataType) (n : Int) : Prop :=
  ∀ f, type.format? = some f → |n| < 2 ^ f.precision

theorem format_isRegular {type : DataType} {f : Binary.Format} (known : type.format? = some f) :
    f.IsRegular ∧ 2 ^ f.width = 256 ^ type.size := by
  cases type with
  | float32 =>
      cases known
      exact ⟨Binary.Format.single_isRegular, by decide⟩
  | float64 =>
      cases known
      exact ⟨Binary.Format.double_isRegular, by decide⟩
  | char => cases known

theorem wrap_of_format {type : DataType} {f : Binary.Format} (known : type.format? = some f)
    (n : Int) : type.wrap n = n := by
  cases type with
  | char => cases known
  | float32 => rfl
  | float64 => rfl

/-- An integer is fitted into a type as the integer that the type has for it, and its bytes give
the same number back. -/
theorem fit_integer {type : DataType} {x : Binary} {n : Int} (integer : x.value? = some (n : ℚ))
    (room : type.HasRoom n) : (type.fit x).value? = some (type.wrap n : ℚ) ∧
      type.decode (type.encode (type.fit x)) = type.fit x := by
  cases known : type.format? with
  | some f =>
      obtain ⟨regular, bytes⟩ := format_isRegular known
      obtain ⟨negative, m, q, rounded, value, has⟩ :=
        Binary.Format.round_integer regular integer (room f known)
      have small := Binary.Format.toBits_lt regular negative has
      rw [bytes] at small
      rw [wrap_of_format known]
      simp only [fit, decode, encode, known]
      refine ⟨value, ?_⟩
      rw [rounded, Bytes.littleEndian_ofNat_of_lt small,
        Binary.Format.ofBits_toBits regular negative has]
  | none =>
      have isChar : type = .char := by
        cases type with
        | char => rfl
        | float32 => cases known
        | float64 => cases known
      subst isChar
      have byte : (n % 256).toNat < 256 := by omega
      have whole : ((n % 256).toNat : Int) = n % 256 := Int.toNat_of_nonneg (by omega)
      have fitted : char.fit x = Binary.ofInt (n % 256) := by
        simp [fit, format?, Binary.truncate_of_integer integer]
      rw [fitted]
      refine ⟨Binary.value_ofInt (n % 256), ?_⟩
      simp only [decode, encode, format?, size,
        Binary.truncate_of_integer (Binary.value_ofInt (n % 256)), Option.getD_some, Int.emod_emod]
      rw [Bytes.littleEndian_ofNat_of_lt (by omega), whole]

theorem hasRoom_of_small (type : DataType) {n : Int} (small : |n| < 2 ^ 24) : type.HasRoom n := by
  intro f known
  cases type with
  | float32 =>
      cases known
      exact small
  | float64 =>
      cases known
      exact small.trans (by decide)
  | char => cases known

theorem sub_value {type : DataType} (plain : ∀ n, type.wrap n = n) {x y : Binary} {m n : Int}
    (left : x.value? = some (m : ℚ)) (right : y.value? = some (n : ℚ)) (smallLeft : |m| < 2 ^ 24)
    (smallRight : |n| < 2 ^ 24) (small : |m - n| < 2 ^ 24) :
    (type.sub (type.fit x) (type.fit y)).value? = some ((m - n : Int) : ℚ) := by
  have first := (fit_integer left (type.hasRoom_of_small smallLeft)).1
  have second := (fit_integer right (type.hasRoom_of_small smallRight)).1
  rw [plain] at first second
  have difference := Binary.value_sub first second
  rw [← Int.cast_sub] at difference
  have fitted := (fit_integer difference (type.hasRoom_of_small small)).1
  rwa [plain] at fitted

end DataType

namespace Tensor

theorem groups_append {size : Nat} (positive : 0 < size) (first rest : List UInt8)
    (length : first.length = size) : groups size (first ++ rest) = first :: groups size rest := by
  cases first with
  | nil =>
      rw [List.length_nil] at length
      omega
  | cons b tail =>
      have count : tail.length = size - 1 := by
        rw [List.length_cons] at length
        omega
      rw [List.cons_append, groups]
      simp [← count]

theorem groups_flatMap {α : Type} {size : Nat} (positive : 0 < size) (encode : α → List UInt8)
    (length : ∀ x, (encode x).length = size) (items : List α) :
    groups size (items.flatMap encode) = items.map encode := by
  induction items with
  | nil => simp [groups]
  | cons x rest ih =>
      rw [List.flatMap_cons, groups_append positive _ _ (length x), ih, List.map_cons]

theorem elements_ofElements (type : DataType) (shape : Shape) (elements : List Binary) :
    (ofElements type shape elements).elements =
      elements.map fun x => type.decode (type.encode (type.fit x)) := by
  have positive : 0 < type.size := by cases type <;> decide
  rw [Tensor.elements, ofElements,
    groups_flatMap positive (fun x => type.encode (type.fit x)) (fun x => length_encode type _),
    List.map_map]
  rfl

end Tensor

theorem block_add_lt {i count j length : Nat} (listed : i < count) (inside : j < length) :
    i * length + j < count * length := by
  calc i * length + j < (i + 1) * length := by
        rw [Nat.add_mul, Nat.one_mul]
        exact Nat.add_lt_add_left inside _
    _ ≤ count * length := Nat.mul_le_mul_right _ listed

theorem getElem?_flatMap_range {α : Type} (count length : Nat) (block : Nat → List α)
    (even : ∀ i, (block i).length = length) (i j : Nat) (listed : i < count) (inside : j < length) :
    ((List.range count).flatMap block)[i * length + j]? = (block i)[j]? := by
  induction count with
  | zero => omega
  | succ count ih =>
      have total : ((List.range count).flatMap block).length = count * length := by
        simp [List.length_flatMap, even]
      rw [List.range_succ, List.flatMap_append, List.flatMap_singleton]
      -- The new block stands behind all others.
      rcases Nat.lt_succ_iff_lt_or_eq.mp listed with earlier | rfl
      · rw [List.getElem?_append_left (by rw [total]; exact block_add_lt earlier inside)]
        exact ih earlier
      · rw [List.getElem?_append_right (by rw [total]; omega), total, Nat.add_sub_cancel_left]

namespace Shape

def place : Shape → List Nat → Nat
  | _ :: shape, i :: index => i * shape.prod + place shape index
  | _, _ => 0

def Bounds (shape : Shape) (index : List Nat) : Prop := List.Forall₂ (· < ·) index shape

def indices : Shape → List (List Nat)
  | [] => [[]]
  | d :: shape => (List.range d).flatMap fun i => (indices shape).map (i :: ·)

variable {shape : Shape} {index : List Nat}

theorem length_indices (shape : Shape) : (indices shape).length = shape.prod := by
  induction shape with
  | nil => rfl
  | cons d shape ih => simp [indices, List.length_flatMap, ih]

theorem mem_indices_iff (shape : Shape) (index : List Nat) :
    index ∈ indices shape ↔ Bounds shape index := by
  unfold Bounds
  induction shape generalizing index with
  | nil => simp [indices]
  | cons d shape ih =>
      simp only [indices, List.mem_flatMap, List.mem_range, List.mem_map, ih]
      constructor
      · rintro ⟨i, below, rest, inside, rfl⟩
        exact .cons below inside
      · intro inside
        cases inside with
        | cons below others => exact ⟨_, below, _, others, rfl⟩

theorem place_lt (inside : Bounds shape index) : shape.place index < shape.prod := by
  induction inside with
  | nil => exact Nat.one_pos
  | @cons i d index shape below _ ih =>
      rw [place, List.prod_cons]
      exact block_add_lt below ih

theorem getElem?_indices (inside : Bounds shape index) :
    (indices shape)[shape.place index]? = some index := by
  induction inside with
  | nil => rfl
  | @cons i d index shape below inside ih =>
      have even : ∀ i : Nat, ((indices shape).map (i :: ·)).length = shape.prod := by
        simp [length_indices]
      rw [indices, place, getElem?_flatMap_range d shape.prod _ even i _ below
        (place_lt inside), List.getElem?_map, ih]
      rfl

theorem flatMap_range_blocks (count length : Nat) :
    ((List.range count).flatMap fun i => (List.range length).map (i * length + ·)) =
      List.range (count * length) := by
  induction count with
  | zero => simp
  | succ count ih =>
      rw [List.range_succ, List.flatMap_append, List.flatMap_singleton, ih, Nat.add_mul,
        Nat.one_mul, List.range_add]

theorem map_place_indices (shape : Shape) :
    (indices shape).map shape.place = List.range shape.prod := by
  induction shape with
  | nil => rfl
  | cons d shape ih =>
      rw [indices, List.map_flatMap, List.prod_cons, ← flatMap_range_blocks, ← ih]
      simp only [List.map_map]
      rfl

end Shape
end TensorBundle
