import Mathlib
import TensorBundle.Proofs.Handler.ConvolutionDomain
import TensorBundle.Proofs.Tensor.Elements
/-!
Convolution window by window. A window takes slices of the padded input, which would be cut off
silently where they reach beyond it, and its sums are assigned to the elements of the result one
after another. No window is cut off, none is left out that has a place, and no element of the result
is assigned twice or not at all.
-/
namespace TensorBundle.Convolution

section Axis
variable {total kernel stride : Nat}

theorem window_inside (apart : 0 < stride) {i : Nat}
    (listed : i < windowCount total kernel stride) : i * stride + kernel ≤ total := by
  obtain ⟨fits, count⟩ := Handler.windowCount_of_pos apart (Nat.ne_zero_of_lt listed)
  have reached : i * stride ≤ total - kernel :=
    (Nat.le_div_iff_mul_le apart).mp (by omega)
  omega

theorem lt_next_window (apart : 0 < stride) (total kernel : Nat) :
    total < windowCount total kernel stride * stride + kernel := by
  by_cases none : windowCount total kernel stride = 0
  · have long := (Handler.windowCount_eq_zero_iff apart).mp none
    omega
  · obtain ⟨fits, count⟩ := Handler.windowCount_of_pos apart none
    have beyond : total - kernel < windowCount total kernel stride * stride := by
      rw [count, Nat.mul_comm]
      exact Nat.lt_mul_div_succ (total - kernel) apart
    omega

def slice {α : Type} (items : List α) (start stop : Nat) : List α := (items.take stop).drop start

theorem slice_inside {α : Type} (f : Nat → α) {start count : Nat} (inside : start + count ≤ total) :
    slice ((List.range total).map f) start (start + count) =
      (List.range count).map fun i => f (start + i) := by
  rw [slice, ← List.map_take, List.take_range, Nat.min_eq_left inside, List.range_add,
    List.map_append, List.drop_left' (by simp), List.map_map]
  rfl

end Axis

section Assignment
variable {α : Type}

def assign (start : List α) (writes : List (Nat × α)) : List α :=
  writes.foldl (fun items write => items.set write.1 write.2) start

theorem length_assign (start : List α) (writes : List (Nat × α)) :
    (assign start writes).length = start.length := by
  induction writes generalizing start with
  | nil => rfl
  | cons write rest ih => exact (ih _).trans (by simp)

theorem getElem?_assign_other {start : List α} {writes : List (Nat × α)} {place : Nat}
    (other : place ∉ writes.map Prod.fst) : (assign start writes)[place]? = start[place]? := by
  induction writes generalizing start with
  | nil => rfl
  | cons write rest ih =>
      rw [List.map_cons, List.mem_cons, not_or] at other
      exact (ih other.2).trans (List.getElem?_set_ne (Ne.symm other.1))

theorem getElem?_assign {start : List α} {writes : List (Nat × α)} {place : Nat} {value : α}
    (distinct : (writes.map Prod.fst).Nodup) (written : (place, value) ∈ writes)
    (inside : place < start.length) : (assign start writes)[place]? = some value := by
  induction writes generalizing start with
  | nil => cases written
  | cons write rest ih =>
      rw [List.map_cons, List.nodup_cons] at distinct
      rcases List.mem_cons.mp written with rfl | later
      · exact (getElem?_assign_other distinct.1).trans (List.getElem?_set_self inside)
      · exact ih distinct.2 later (by simpa using inside)

end Assignment

namespace Geometry
variable (g : Geometry)

def paddedPlane (x : Array Binary) (n c : Nat) : List (List Binary) :=
  (List.range g.paddedHeight).map fun i =>
    (List.range g.paddedWidth).map fun j => g.padded x n c i j

/-- What a window takes out of a channel: a slice of its rows, and a slice of each of these. -/
def patch (x : Array Binary) (n c h w : Nat) : List (List Binary) :=
  (slice (g.paddedPlane x n c) (h * g.stride.vertical)
    (h * g.stride.vertical + g.kernelHeight)).map fun row =>
      slice row (w * g.stride.horizontal) (w * g.stride.horizontal + g.kernelWidth)

def weights (filters : Array Binary) (o c : Nat) : List (List Binary) :=
  (List.range g.kernelHeight).map fun p =>
    (List.range g.kernelWidth).map fun q =>
      filters[g.filterPlace o c p q]?.getD (Binary.ofInt 0)

def patchPairs (x filters : Array Binary) (n o h w : Nat) : List (Binary × Binary) :=
  (List.range g.channels).flatMap fun c =>
    (g.patch x n c h w).flatten.zip (g.weights filters o c).flatten

def windows : List (Nat × Nat) := (List.range g.outHeight).product (List.range g.outWidth)

def slots : List (Nat × Nat) := (List.range g.batch).product (List.range g.filters)

/-- The assignments to the result, in the order in which they are made. -/
def writes (f : Nat → Nat → Nat → Nat → Binary) : List (Nat × Binary) :=
  g.windows.flatMap fun (h, w) => g.slots.map fun (n, o) =>
    (g.outShape.place [n, o, h, w], f n o h w)

/-- The elements of the result after all assignments to zeros. -/
def assigned (f : Nat → Nat → Nat → Nat → Binary) : List Binary :=
  assign (List.replicate (numel g.outShape) (Binary.ofInt 0)) (g.writes f)

variable {g}

theorem patch_eq (vertical : 0 < g.stride.vertical) (horizontal : 0 < g.stride.horizontal)
    (x : Array Binary) (n c : Nat) {h w : Nat} (row : h < g.outHeight) (column : w < g.outWidth) :
    g.patch x n c h w = (List.range g.kernelHeight).map fun p =>
      (List.range g.kernelWidth).map fun q =>
        g.padded x n c (h * g.stride.vertical + p) (w * g.stride.horizontal + q) := by
  rw [patch, paddedPlane, slice_inside _ (window_inside vertical row), List.map_map]
  refine List.map_congr_left fun p _ => ?_
  exact slice_inside _ (window_inside horizontal column)

theorem zip_rows {α β : Type} (ps qs : List Nat) (a : Nat → Nat → α) (b : Nat → Nat → β) :
    (ps.map fun p => qs.map (a p)).flatten.zip (ps.map fun p => qs.map (b p)).flatten =
      ps.flatMap fun p => qs.map fun q => (a p q, b p q) := by
  induction ps with
  | nil => rfl
  | cons p rest ih =>
      rw [List.map_cons, List.map_cons, List.flatten_cons, List.flatten_cons,
        List.zip_append (by simp), ih, List.flatMap_cons, List.zip_map']

theorem patchPairs_eq (vertical : 0 < g.stride.vertical) (horizontal : 0 < g.stride.horizontal)
    (x filters : Array Binary) (n o : Nat) {h w : Nat} (row : h < g.outHeight)
    (column : w < g.outWidth) : g.patchPairs x filters n o h w = g.pairs x filters n o h w := by
  rw [patchPairs, pairs]
  refine List.flatMap_congr fun c _ => ?_
  rw [patch_eq vertical horizontal x n c row column, weights]
  exact zip_rows _ _ _ _

theorem flatMap_swap {α β γ : Type} (as : List α) (bs : List β) (f : α → β → γ) :
    (as.flatMap fun a => bs.map (f a)).Perm (bs.flatMap fun b => as.map fun a => f a b) := by
  induction as with
  | nil => simp
  | cons a rest ih =>
      have first := List.map_append_flatMap_perm bs (f a) fun b => rest.map fun a => f a b
      exact (ih.append_left _).trans first

theorem indices_outShape (g : Geometry) : Shape.indices g.outShape =
    g.slots.flatMap fun (n, o) => g.windows.map fun (h, w) => [n, o, h, w] := by
  simp [Shape.indices, outShape, slots, windows, List.product, List.flatMap_assoc,
    List.map_eq_flatMap]

theorem mem_writes_iff (g : Geometry) (f : Nat → Nat → Nat → Nat → Binary)
    (write : Nat × Binary) : write ∈ g.writes f ↔ ∃ n < g.batch, ∃ o < g.filters,
      ∃ h < g.outHeight, ∃ w < g.outWidth, write = (g.outShape.place [n, o, h, w], f n o h w) := by
  simp only [writes, windows, slots, List.mem_flatMap, List.mem_map, List.pair_mem_product,
    List.mem_range, Prod.exists]
  constructor
  · rintro ⟨h, w, ⟨row, column⟩, n, o, ⟨batch, filter⟩, rfl⟩
    exact ⟨n, batch, o, filter, h, row, w, column, rfl⟩
  · rintro ⟨n, batch, o, filter, h, row, w, column, rfl⟩
    exact ⟨h, w, ⟨row, column⟩, n, o, ⟨batch, filter⟩, rfl⟩

/-- Every element of the result is assigned once. -/
theorem places_writes_perm (g : Geometry) (f : Nat → Nat → Nat → Nat → Binary) :
    ((g.writes f).map Prod.fst).Perm (List.range (numel g.outShape)) := by
  have places : (g.writes f).map Prod.fst =
      (g.windows.flatMap fun window => g.slots.map fun slot =>
        [slot.1, slot.2, window.1, window.2]).map g.outShape.place := by
    simp [writes, List.map_flatMap, Function.comp_def]
  have swapped := flatMap_swap g.windows g.slots fun window slot =>
    [slot.1, slot.2, window.1, window.2]
  rw [places, numel_eq_prod, ← Shape.map_place_indices, indices_outShape]
  exact swapped.map _

theorem length_assigned (g : Geometry) (f : Nat → Nat → Nat → Nat → Binary) :
    (g.assigned f).length = numel g.outShape := by
  rw [assigned, length_assign, List.length_replicate]

/-- The result that is made by assignments is the one in row-major order. -/
theorem assigned_eq (g : Geometry) (f : Nat → Nat → Nat → Nat → Binary) :
    g.assigned f = g.outElements f := by
  have once := places_writes_perm g f
  have distinct := once.nodup_iff.mpr List.nodup_range
  refine List.ext_getElem? fun place => ?_
  by_cases inside : place < numel g.outShape
  · -- Every place has its assignment, and the one value that is assigned to it stays.
    obtain ⟨write, written, rfl⟩ :=
      List.mem_map.mp (once.mem_iff.mpr (List.mem_range.mpr inside))
    obtain ⟨n, batch, o, filter, h, row, w, column, rfl⟩ := (mem_writes_iff g f write).mp written
    rw [getElem?_outElements g f batch filter row column]
    exact getElem?_assign distinct written (by simpa using inside)
  · rw [List.getElem?_eq_none (by rw [length_assigned]; omega),
      List.getElem?_eq_none (by rw [length_outElements]; omega)]

theorem outElements_congr {f f' : Nat → Nat → Nat → Nat → Binary}
    (same : ∀ n o, ∀ h < g.outHeight, ∀ w < g.outWidth, f n o h w = f' n o h w) :
    g.outElements f = g.outElements f' := by
  refine List.flatMap_congr fun n _ => List.flatMap_congr fun o _ =>
    List.flatMap_congr fun h row => List.map_congr_left fun w column => ?_
  exact same n o h (List.mem_range.mp row) w (List.mem_range.mp column)

end Geometry

def patchElement (g : Geometry) (x filters : Tensor) (bias : Option Tensor) (n o h w : Nat) :
    Binary :=
  let sum := x.type.fit (dot (x.type.join filters.type)
    (g.patchPairs x.elements.toArray filters.elements.toArray n o h w))
  match bias.map fun b => b.elements.toArray with
  | none => sum
  | some b => x.type.add sum (x.type.fit (b[o]?.getD (Binary.ofInt 0)))

section Tiling
variable {g : Geometry}

theorem convolve_eq_assigned (vertical : 0 < g.stride.vertical)
    (horizontal : 0 < g.stride.horizontal) (x filters : Tensor) (bias : Option Tensor)
    (places : g.isTooSmall = false) : convolve g x filters bias =
      some (Tensor.ofElements x.type g.outShape (g.assigned (patchElement g x filters bias))) := by
  rw [convolve, if_neg (by simp [places]), Geometry.assigned_eq]
  refine congrArg (fun elements => some (Tensor.ofElements x.type g.outShape elements))
    (Geometry.outElements_congr fun n o h row w column => ?_)
  have pairs := Geometry.patchPairs_eq vertical horizontal x.elements.toArray
    filters.elements.toArray n o row column
  cases bias with
  | none => simp only [patchElement, pairs, Option.map_none]
  | some b => simp only [patchElement, pairs, Option.map_some]

/-- The windows of a convolution lie in the padded input, as many as there is room for, and each
gives one element of the result. -/
structure Tiles (g : Geometry) (x filters : Tensor) (bias : Option Tensor) : Prop where
  none_iff : convolve g x filters bias = none ↔
    g.height + g.padding.top + g.padding.bottom < g.kernelHeight ∨
      g.width + g.padding.left + g.padding.right < g.kernelWidth
  rows : ∀ h < g.outHeight, h * g.stride.vertical + g.kernelHeight ≤ g.paddedHeight
  columns : ∀ w < g.outWidth, w * g.stride.horizontal + g.kernelWidth ≤ g.paddedWidth
  patches : ∀ n c, ∀ h < g.outHeight, ∀ w < g.outWidth, g.patch x.elements.toArray n c h w =
    (List.range g.kernelHeight).map fun p => (List.range g.kernelWidth).map fun q =>
      g.padded x.elements.toArray n c (h * g.stride.vertical + p) (w * g.stride.horizontal + q)
  once : ((g.writes (patchElement g x filters bias)).map Prod.fst).Perm
    (List.range (numel g.outShape))
  result : Fits g → convolve g x filters bias =
    some (Tensor.ofElements x.type g.outShape (g.assigned (patchElement g x filters bias)))
  lastRow : g.paddedHeight < g.outHeight * g.stride.vertical + g.kernelHeight
  lastColumn : g.paddedWidth < g.outWidth * g.stride.horizontal + g.kernelWidth

/-- A convolution has no result exactly where a filter is larger than the padded input. Otherwise no
slice of a window is cut off, the result is what the assignments of the windows leave, one for each
of its elements, and one more row or column of windows would reach beyond the padding. -/
theorem windows_tile (g : Geometry) (x filters : Tensor) (bias : Option Tensor)
    (vertical : 0 < g.stride.vertical) (horizontal : 0 < g.stride.horizontal) :
    Tiles g x filters bias := by
  have isSome := Handler.convolve_isSome_iff x filters bias vertical horizontal
  exact {
    none_iff := by
      rw [← Option.not_isSome_iff_eq_none, isSome, Fits]
      omega
    rows := fun h row => window_inside vertical row
    columns := fun w column => window_inside horizontal column
    patches := fun n c h row w column =>
      Geometry.patch_eq vertical horizontal x.elements.toArray n c row column
    once := Geometry.places_writes_perm g _
    result := by
      intro fits
      apply convolve_eq_assigned vertical horizontal
      by_contra small
      have none : convolve g x filters bias = none := by
        rw [convolve, if_pos (by simpa using small)]
      rw [← isSome, none] at fits
      cases fits
    lastRow := lt_next_window vertical _ _
    lastColumn := lt_next_window horizontal _ _ }

def unevenSizes : Geometry where
  batch := 1
  channels := 1
  height := 4
  width := 5
  filters := 1
  kernelHeight := 2
  kernelWidth := 3
  stride := ⟨2, 2⟩
  padding := ⟨1, 1, 0, 0⟩

theorem windows_tile_unevenSizes :
    (0 < unevenSizes.stride.vertical ∧ 0 < unevenSizes.stride.horizontal) ∧
    (unevenSizes.outHeight = 2 ∧ unevenSizes.outWidth = 2) ∧
    Tiles unevenSizes ⟨.char, [1, 1, 4, 5], List.replicate 20 7⟩
      ⟨.char, [1, 1, 2, 3], [1, 2, 3, 4, 5, 6]⟩ none :=
  ⟨by decide, by decide, windows_tile _ _ _ _ (by decide) (by decide)⟩

end Tiling

end TensorBundle.Convolution
