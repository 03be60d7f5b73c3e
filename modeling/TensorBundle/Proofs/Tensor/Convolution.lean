import Mathlib
import TensorBundle.Proofs.Tensor.Elements
/-!
The convolution of integers. An element of the result is the bias and the sum of the products of
the entries in its window with those of its filter, where the input counts as zero outside of its
bounds.
-/
namespace TensorBundle

def Tensor.entry (t : Tensor) (shape : Shape) (index : List Nat) : Binary :=
  t.elements[shape.place index]?.getD (Binary.ofInt 0)

namespace DataType

theorem wrap_wrap (type : DataType) (n : Int) : type.wrap (type.wrap n) = type.wrap n := by
  cases type with
  | char => exact Int.emod_emod n 256
  | float32 => rfl
  | float64 => rfl

theorem wrap_add (type : DataType) (a b : Int) :
    type.wrap (type.wrap a + type.wrap b) = type.wrap (a + b) := by
  cases type with
  | char => exact (Int.add_emod a b 256).symm
  | float32 => rfl
  | float64 => rfl

theorem wrap_sum {α : Type} (type : DataType) (items : List α) (f : α → Int) :
    type.wrap (items.map fun k => type.wrap (f k)).sum = type.wrap (items.map f).sum := by
  induction items with
  | nil => rfl
  | cons k rest ih =>
      simp only [List.map_cons, List.sum_cons]
      rw [← wrap_add, wrap_wrap, ih, wrap_add]

theorem hasRoom_of_le {type : DataType} {m n : Int} (room : type.HasRoom n) (below : |m| ≤ |n|) :
    type.HasRoom m :=
  fun f known => lt_of_le_of_lt below (room f known)

theorem hasRoom_wrap {type : DataType} {n : Int} (room : type.HasRoom n) :
    type.HasRoom (type.wrap n) := by
  intro f known
  rw [wrap_of_format known]
  exact room f known

end DataType

namespace Convolution

def atIndex (f : Nat → Nat → Nat → Nat → Binary) : List Nat → Binary
  | [n, o, h, w] => f n o h w
  | _ => Binary.ofInt 0

theorem outElements_eq (g : Geometry) (f : Nat → Nat → Nat → Nat → Binary) :
    g.outElements f = (Shape.indices g.outShape).map (atIndex f) := by
  simp [Geometry.outElements, Geometry.outShape, Shape.indices, atIndex, List.flatMap_assoc,
    List.map_eq_flatMap]

theorem getElem?_outElements (g : Geometry) (f : Nat → Nat → Nat → Nat → Binary) {n o h w : Nat}
    (batch : n < g.batch) (filter : o < g.filters) (row : h < g.outHeight)
    (column : w < g.outWidth) :
    (g.outElements f)[g.outShape.place [n, o, h, w]]? = some (f n o h w) := by
  have inside : g.outShape.Bounds [n, o, h, w] :=
    .cons batch (.cons filter (.cons row (.cons column .nil)))
  rw [outElements_eq, List.getElem?_map, Shape.getElem?_indices inside]
  rfl

section Sum
variable (g : Geometry) (X W : Nat → Nat → Nat → Nat → Int)

/-- The input, with zeros outside of its bounds. -/
def framed (n c : Nat) (i j : Int) : Int :=
  if 0 ≤ i ∧ i < g.height ∧ 0 ≤ j ∧ j < g.width then X n c i.toNat j.toNat else 0

/-- The sum of the products of the entries in a window with those of a filter. -/
def windowSum (n o i j : Nat) : Int :=
  ∑ c ∈ Finset.range g.channels, ∑ p ∈ Finset.range g.kernelHeight,
    ∑ q ∈ Finset.range g.kernelWidth, framed g X n c (i * g.stride.vertical + p - g.padding.top)
      (j * g.stride.horizontal + q - g.padding.left) * W o c p q

def windowMagnitude (n o i j : Nat) : Int :=
  windowSum g (fun n c i j => |X n c i j|) (fun o c p q => |W o c p q|) n o i j

def filterIndices : List (Nat × Nat × Nat) :=
  (List.range g.channels).flatMap fun c =>
    (List.range g.kernelHeight).flatMap fun p => (List.range g.kernelWidth).map fun q => (c, p, q)

theorem mem_filterIndices (c p q : Nat) : (c, p, q) ∈ filterIndices g ↔
    c < g.channels ∧ p < g.kernelHeight ∧ q < g.kernelWidth := by
  simp [filterIndices]

theorem sum_map_range (count : Nat) (f : Nat → Int) :
    ((List.range count).map f).sum = ∑ i ∈ Finset.range count, f i := by
  induction count with
  | zero => rfl
  | succ count ih => simp [List.range_succ, Finset.sum_range_succ, ih]

theorem sum_filterIndices (f : Nat → Nat → Nat → Int) :
    ((filterIndices g).map fun k => f k.1 k.2.1 k.2.2).sum =
      ∑ c ∈ Finset.range g.channels, ∑ p ∈ Finset.range g.kernelHeight,
        ∑ q ∈ Finset.range g.kernelWidth, f c p q := by
  have sum_flatMap : ∀ (count : Nat) (block : Nat → List (Nat × Nat × Nat)),
      (((List.range count).flatMap block).map fun k => f k.1 k.2.1 k.2.2).sum =
        ∑ i ∈ Finset.range count, ((block i).map fun k => f k.1 k.2.1 k.2.2).sum := by
    intro count block
    induction count with
    | zero => rfl
    | succ count ih =>
        simp only [List.range_succ, List.flatMap_append, List.flatMap_singleton, List.map_append,
          List.sum_append, ih, Finset.sum_range_succ]
  rw [filterIndices, sum_flatMap]
  refine Finset.sum_congr rfl fun c _ => ?_
  rw [sum_flatMap]
  refine Finset.sum_congr rfl fun p _ => ?_
  rw [List.map_map]
  exact sum_map_range g.kernelWidth fun q => f c p q

def term (n o i j : Nat) (k : Nat × Nat × Nat) : Int :=
  framed g X n k.1 (i * g.stride.vertical + k.2.1 - g.padding.top)
    (j * g.stride.horizontal + k.2.2 - g.padding.left) * W o k.1 k.2.1 k.2.2

theorem windowSum_eq (n o i j : Nat) :
    windowSum g X W n o i j = ((filterIndices g).map (term g X W n o i j)).sum :=
  (sum_filterIndices g fun c p q => term g X W n o i j (c, p, q)).symm

theorem windowMagnitude_eq (n o i j : Nat) : windowMagnitude g X W n o i j =
    ((filterIndices g).map fun k => |term g X W n o i j k|).sum := by
  rw [windowMagnitude, windowSum_eq]
  congr 1
  refine List.map_congr_left fun k _ => ?_
  simp only [term, framed, abs_mul]
  split <;> simp

theorem abs_windowSum_le (n o i j : Nat) :
    |windowSum g X W n o i j| ≤ windowMagnitude g X W n o i j := by
  rw [windowSum_eq, windowMagnitude_eq]
  induction filterIndices g with
  | nil => simp
  | cons k rest ih =>
      simp only [List.map_cons, List.sum_cons]
      exact (abs_add_le _ _).trans (add_le_add_right ih _)

theorem abs_term_le (n o i j : Nat) (k : Nat × Nat × Nat) (listed : k ∈ filterIndices g) :
    |term g X W n o i j k| ≤ windowMagnitude g X W n o i j := by
  rw [windowMagnitude_eq]
  refine List.single_le_sum ?_ _ (List.mem_map.mpr ⟨k, listed, rfl⟩)
  intro size member
  obtain ⟨other, _, rfl⟩ := List.mem_map.mp member
  exact abs_nonneg _

end Sum

section Entries
variable {g : Geometry} {X W : Nat → Nat → Nat → Nat → Int}

/-- The entries of an array that is read with four dimensions are these integers. -/
def IsRead (t : Tensor) (a b c d : Nat) (values : Nat → Nat → Nat → Nat → Int) : Prop :=
  ∀ i < a, ∀ j < b, ∀ k < c, ∀ l < d,
    (t.entry [a, b, c, d] [i, j, k, l]).value? = some (values i j k l : ℚ)

theorem padded_value {x : Tensor} (read : IsRead x g.batch g.channels g.height g.width X)
    {n c : Nat} (batch : n < g.batch) (channel : c < g.channels) (i j : Nat) :
    (g.padded x.elements.toArray n c i j).value? =
      some (framed g X n c (i - g.padding.top) (j - g.padding.left) : ℚ) := by
  unfold Geometry.padded framed
  by_cases inside : g.padding.top ≤ i ∧ i < g.padding.top + g.height ∧ g.padding.left ≤ j ∧
      j < g.padding.left + g.width
  · obtain ⟨top, bottom, left, right⟩ := inside
    have row : i - g.padding.top < g.height := by omega
    have column : j - g.padding.left < g.width := by omega
    have rowNat : ((i : Int) - g.padding.top).toNat = i - g.padding.top := by omega
    have columnNat : ((j : Int) - g.padding.left).toNat = j - g.padding.left := by omega
    have bounds : (0 : Int) ≤ i - g.padding.top ∧ (i : Int) - g.padding.top < g.height ∧
        (0 : Int) ≤ j - g.padding.left ∧ (j : Int) - g.padding.left < g.width := by omega
    have place : g.inputPlace n c (i - g.padding.top) (j - g.padding.left) =
        Shape.place [g.batch, g.channels, g.height, g.width]
          [n, c, i - g.padding.top, j - g.padding.left] := by
      simp only [Geometry.inputPlace, Shape.place, List.prod_cons, List.prod_nil]
      ring
    have entry := read n batch c channel _ row _ column
    rw [if_pos ⟨top, bottom, left, right⟩, if_pos bounds, rowNat, columnNat, ← entry, place]
    simp [Tensor.entry]
  · have bounds : ¬ ((0 : Int) ≤ i - g.padding.top ∧ (i : Int) - g.padding.top < g.height ∧
        (0 : Int) ≤ j - g.padding.left ∧ (j : Int) - g.padding.left < g.width) := by omega
    rw [if_neg inside, if_neg bounds]
    exact Binary.value_ofInt 0

theorem filter_value {w : Tensor}
    (read : IsRead w g.filters g.channels g.kernelHeight g.kernelWidth W) {o c p q : Nat}
    (filter : o < g.filters) (listed : (c, p, q) ∈ filterIndices g) :
    (w.elements.toArray[g.filterPlace o c p q]?.getD (Binary.ofInt 0)).value? =
      some (W o c p q : ℚ) := by
  obtain ⟨channel, row, column⟩ := (mem_filterIndices g c p q).mp listed
  have place : g.filterPlace o c p q =
      Shape.place [g.filters, g.channels, g.kernelHeight, g.kernelWidth] [o, c, p, q] := by
    simp only [Geometry.filterPlace, Shape.place, List.prod_cons, List.prod_nil]
    ring
  rw [← read o filter c channel p row q column, place]
  simp [Tensor.entry]

theorem dot_value {ι : Type} (product : DataType) (items : List ι) (a b : ι → Binary)
    (α β : ι → Int) (left : ∀ k ∈ items, (a k).value? = some (α k : ℚ))
    (right : ∀ k ∈ items, (b k).value? = some (β k : ℚ))
    (room : ∀ k ∈ items, product.HasRoom (α k * β k)) :
    (dot product (items.map fun k => (a k, b k))).value? =
      some ((items.map fun k => product.wrap (α k * β k)).sum : ℚ) := by
  -- The sum so far must be any integer for the induction to go through.
  have accumulated : ∀ (start : Binary) (total : Int), start.value? = some (total : ℚ) →
      ((items.map fun k => (a k, b k)).foldl
        (fun sum pair => sum.add (product.mul pair.1 pair.2)) start).value? =
          some ((total + (items.map fun k => product.wrap (α k * β k)).sum : Int) : ℚ) := by
    induction items with
    | nil =>
        intro start total known
        simpa using known
    | cons k rest ih =>
        intro start total known
        have exact : ((a k).mul (b k)).value? = some ((α k * β k : Int) : ℚ) := by
          rw [Int.cast_mul]
          exact Binary.value_mul (left k (by simp)) (right k (by simp))
        have fitted := (DataType.fit_integer exact (room k (by simp))).1
        have next : (start.add (product.mul (a k) (b k))).value? =
            some ((total + product.wrap (α k * β k) : Int) : ℚ) := by
          rw [Int.cast_add]
          exact Binary.value_add known fitted
        have later := ih (fun k member => left k (by simp [member]))
          (fun k member => right k (by simp [member]))
          (fun k member => room k (by simp [member])) _ _ next
        rw [List.map_cons, List.foldl_cons, later, List.map_cons, List.sum_cons, add_assoc]
  have whole := accumulated (Binary.ofInt 0) 0 (Binary.value_ofInt 0)
  rw [zero_add] at whole
  change (dot product (items.map fun k => (a k, b k))).value? = _ at whole
  exact_mod_cast whole

theorem pairs_eq (g : Geometry) (x w : Array Binary) (n o i j : Nat) : g.pairs x w n o i j =
    (filterIndices g).map fun k =>
      (g.padded x n k.1 (i * g.stride.vertical + k.2.1) (j * g.stride.horizontal + k.2.2),
        w[g.filterPlace o k.1 k.2.1 k.2.2]?.getD (Binary.ofInt 0)) := by
  simp [Geometry.pairs, filterIndices, List.map_flatMap, Function.comp_def]

theorem window_value {type : DataType} {x w : Tensor} {n o : Nat} (batch : n < g.batch)
    (filter : o < g.filters) (i j : Nat) (readX : IsRead x g.batch g.channels g.height g.width X)
    (readW : IsRead w g.filters g.channels g.kernelHeight g.kernelWidth W)
    (room : type.HasRoom (windowMagnitude g X W n o i j)) :
    (type.fit (dot type (g.pairs x.elements.toArray w.elements.toArray n o i j))).value? =
      some (type.wrap (windowSum g X W n o i j) : ℚ) := by
  have positive : 0 ≤ windowMagnitude g X W n o i j :=
    (abs_nonneg _).trans (abs_windowSum_le g X W n o i j)
  have below : ∀ m, |m| ≤ windowMagnitude g X W n o i j → type.HasRoom m := fun m small =>
    DataType.hasRoom_of_le room (small.trans (le_abs_self _))
  have left : ∀ k ∈ filterIndices g, (g.padded x.elements.toArray n k.1
      (i * g.stride.vertical + k.2.1) (j * g.stride.horizontal + k.2.2)).value? =
        some (framed g X n k.1 (i * g.stride.vertical + k.2.1 - g.padding.top)
          (j * g.stride.horizontal + k.2.2 - g.padding.left) : ℚ) := by
    rintro ⟨c, p, q⟩ listed
    have value := padded_value readX batch ((mem_filterIndices g c p q).mp listed).1
      (i * g.stride.vertical + p) (j * g.stride.horizontal + q)
    rw [value]
    push_cast
    rfl
  have right : ∀ k ∈ filterIndices g, (w.elements.toArray[g.filterPlace o k.1 k.2.1 k.2.2]?.getD
      (Binary.ofInt 0)).value? = some (W o k.1 k.2.1 k.2.2 : ℚ) := by
    rintro ⟨c, p, q⟩ listed
    exact filter_value readW filter listed
  have sum := dot_value type (filterIndices g) _ _ _ _ left right fun k listed =>
    below _ (abs_term_le g X W n o i j k listed)
  rw [← pairs_eq] at sum
  change _ = some (((filterIndices g).map fun k => type.wrap (term g X W n o i j k)).sum : ℚ) at sum
  have total :
      type.HasRoom ((filterIndices g).map fun k => type.wrap (term g X W n o i j k)).sum := by
    intro f known
    -- A type that asks for room has the integers themselves and not their rests.
    have plain : ((filterIndices g).map fun k => type.wrap (term g X W n o i j k)) =
        (filterIndices g).map (term g X W n o i j) :=
      List.map_congr_left fun k _ => DataType.wrap_of_format known _
    rw [plain, ← windowSum_eq]
    exact below _ (abs_windowSum_le g X W n o i j) f known
  have fitted := (DataType.fit_integer (by exact_mod_cast sum) total).1
  rw [fitted, DataType.wrap_sum, ← windowSum_eq]

/-- Without a bias every filter has zero; otherwise the elements of the bias in their order are
one for each filter. -/
def IsBias (bias : Option Tensor) (count : Nat) (B : Nat → Int) : Prop :=
  ∀ o < count, match bias with
    | none => B o = 0
    | some b => (b.entry [count] [o]).value? = some (B o : ℚ)

theorem entry_char {t : Tensor} (bytes : t.type = .char) (shape : Shape) (index : List Nat) :
    ∃ k : Int, (t.entry shape index).value? = some (k : ℚ) := by
  unfold Tensor.entry Tensor.elements
  rw [List.getElem?_map, bytes]
  cases (Tensor.groups DataType.char.size t.bytes)[shape.place index]? with
  | none => exact ⟨0, Binary.value_ofInt 0⟩
  | some group => exact ⟨Bytes.littleEndian group, Binary.value_ofInt _⟩

theorem exists_isRead {t : Tensor} (bytes : t.type = .char) (a b c d : Nat) :
    ∃ values, IsRead t a b c d values := by
  choose values read using fun index => entry_char bytes [a, b, c, d] index
  exact ⟨fun i j k l => values [i, j, k, l], fun i _ j _ k _ l _ => read [i, j, k, l]⟩

theorem exists_isBias {bias : Option Tensor} (bytes : ∀ b, bias = some b → b.type = .char)
    (count : Nat) : ∃ B, IsBias bias count B := by
  cases bias with
  | none => exact ⟨fun _ => 0, fun _ _ => rfl⟩
  | some b =>
      choose values read using fun index => entry_char (bytes b rfl) [count] index
      exact ⟨fun o => values [o], fun o _ => read [o]⟩

theorem element_value {type : DataType} {sum : Binary} {total offset : Int} {bias : Option Tensor}
    {count o : Nat} {B : Nat → Int} (filter : o < count) (isBias : IsBias bias count B)
    (known : sum.value? = some (type.wrap total : ℚ)) (exact : B o = offset)
    (roomOffset : type.HasRoom offset) (room : type.HasRoom (offset + total)) :
    (match bias.map fun b : Tensor => b.elements.toArray with
      | none => sum
      | some b => type.add sum (type.fit (b[o]?.getD (Binary.ofInt 0)))).value? =
        some (type.wrap (offset + total) : ℚ) := by
  have given := isBias o filter
  cases bias with
  | none =>
      have none : offset = 0 := exact.symm.trans given
      rw [none, zero_add]
      exact known
  | some b =>
      have read : (b.elements.toArray[o]?.getD (Binary.ofInt 0)).value? = some (offset : ℚ) := by
        rw [← exact, ← given]
        simp [Tensor.entry, Shape.place]
      have fitted := (DataType.fit_integer read roomOffset).1
      have sums := Binary.value_add known fitted
      rw [← Int.cast_add] at sums
      have roomSum : type.HasRoom (type.wrap total + type.wrap offset) := by
        intro f format
        rw [DataType.wrap_of_format format, DataType.wrap_of_format format, add_comm]
        exact room f format
      have added := (DataType.fit_integer sums roomSum).1
      rw [DataType.wrap_add, add_comm] at added
      exact added

/-- Where the sum of the absolute values has room in the type, the result has the convolution of the
integers, as an integer of the type. -/
theorem convolve_entry {x w y : Tensor} {bias : Option Tensor} {B : Nat → Int}
    (convolved : convolve g x w bias = some y) (same : w.type = x.type)
    (readX : IsRead x g.batch g.channels g.height g.width X)
    (readW : IsRead w g.filters g.channels g.kernelHeight g.kernelWidth W)
    (isBias : IsBias bias g.filters B) {n o i j : Nat} (batch : n < g.batch)
    (filter : o < g.filters) (row : i < g.outHeight) (column : j < g.outWidth)
    (enough : x.type.HasRoom (windowMagnitude g X W n o i j + |B o|)) :
    (y.entry g.outShape [n, o, i, j]).value? =
      some (x.type.wrap (B o + windowSum g X W n o i j) : ℚ) := by
  have bounded := abs_windowSum_le g X W n o i j
  have positive : 0 ≤ windowMagnitude g X W n o i j := (abs_nonneg _).trans bounded
  -- The bound is on absolute values, so that every sum on the way has room as well.
  have below : ∀ m, |m| ≤ windowMagnitude g X W n o i j + |B o| → x.type.HasRoom m := fun m small =>
    DataType.hasRoom_of_le enough (small.trans (le_abs_self _))
  have roomWindow : x.type.HasRoom (windowMagnitude g X W n o i j) := by
    apply below
    rw [abs_of_nonneg positive]
    exact le_add_of_nonneg_right (abs_nonneg _)
  have roomBias : x.type.HasRoom (B o) := below _ (le_add_of_nonneg_left positive)
  have roomTotal : x.type.HasRoom (B o + windowSum g X W n o i j) := by
    apply below
    calc |B o + windowSum g X W n o i j| ≤ |B o| + |windowSum g X W n o i j| := abs_add_le _ _
      _ ≤ windowMagnitude g X W n o i j + |B o| := by rw [add_comm]; exact add_le_add_left bounded _
  have join : x.type.join w.type = x.type := by rw [same]; cases x.type <;> rfl
  have sum := window_value batch filter i j readX readW roomWindow
  have element := element_value filter isBias sum rfl roomBias roomTotal
  obtain ⟨fitted, encoded⟩ := DataType.fit_integer element (DataType.hasRoom_wrap roomTotal)
  rw [← encoded, DataType.wrap_wrap] at fitted
  unfold convolve at convolved
  split at convolved
  · cases convolved
  · cases convolved
    rw [join, Tensor.entry, Tensor.elements_ofElements, List.getElem?_map,
      getElem?_outElements g _ batch filter row column]
    exact fitted

end Entries

end Convolution
end TensorBundle
