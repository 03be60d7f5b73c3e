import Mathlib
import TensorBundle.FileTree
import TensorBundle.Proofs.Handler.ConvolutionDomain
import TensorBundle.Proofs.Handler.Restoring
/-!
The tensor of an image: its red, its green and its blue plane one after the other, each with the
pixels in row-major order, less an average for each plane. Integers of a few bits are subtracted
without an error.
-/
namespace TensorBundle

namespace Pixel

def level (p : Pixel) : Nat → UInt8
  | 0 => p.red
  | 1 => p.green
  | _ => p.blue

end Pixel

namespace Image

def pixel (image : Image) (y x : Nat) : Pixel := image.pixels[y * image.width + x]?.getD .black

def planeShape (image : Image) : Shape := [1, 3, image.height, image.width]

theorem getElem?_pixels (image : Image) {y x : Nat} (row : y < image.height)
    (column : x < image.width) : image.pixels[y * image.width + x]? = some (image.pixel y x) := by
  have known : y * image.width + x < image.pixels.length := by
    rw [image.length_pixels]
    exact block_add_lt row column
  rw [pixel, List.getElem?_eq_getElem known, Option.getD_some]

end Image

namespace Json

def IsInteger (document : Json) (n : Int) : Prop :=
  document = .int n ∨ ∃ x, document = .real x ∧ x.value? = some (n : ℚ)

end Json

namespace Operation

theorem toNumber_of_integer {item : Json} {n : Int} (integer : item.IsInteger n)
    (small : |n| < 2 ^ 23) : ∃ x, toNumber item = some (.ok x) ∧ x.value? = some (n : ℚ) := by
  rcases integer with rfl | ⟨x, rfl, value⟩
  · have room : |n| < 2 ^ Binary.double.precision := small.trans (by decide)
    obtain ⟨negative, m, q, rounded, value, _⟩ := Binary.Format.round_integer
      Binary.Format.double_isRegular (Binary.value_ofInt n) room
    refine ⟨Binary.double.round (Binary.ofInt n), ?_, value⟩
    simp [toNumber, rounded]
  · exact ⟨x, rfl, value⟩

end Operation

namespace Handler

/-- An operation declares an image to load: by the name of its output and by the fields for the
file, for the type of the elements and for the averages, of which the last two may be missing. -/
structure ImageRequest.DeclaredBy (op : Operation) (name file : Text) (type : DataType)
    (average : Nat → Int) : Prop where
  output : op.outputs.head? = some name
  file : op.get? "fileName" = some (.text file)
  type : (op.get? "dataType" = none ∧ type = .float32) ∨
    (op.get? "dataType" = some (.text "single") ∧ type = .float32) ∨
    (op.get? "dataType" = some (.text "double") ∧ type = .float64)
  averages : (op.get? "averageColor" = none ∧ ∀ c < 3, average c = 0) ∨
    ∃ red green blue, op.get? "averageColor" = some (.array [red, green, blue]) ∧
      red.IsInteger (average 0) ∧ green.IsInteger (average 1) ∧ blue.IsInteger (average 2)
  small : ∀ c < 3, |average c| < 2 ^ 23

inductive Averages (average : Nat → Int) : Option (List Binary) → Prop where
  | none (zero : ∀ c < 3, average c = 0) : Averages average none
  | each (red green blue : Binary) (first : red.value? = some (average 0 : ℚ))
      (second : green.value? = some (average 1 : ℚ)) (third : blue.value? = some (average 2 : ℚ)) :
      Averages average (some [red, green, blue])

/-- A tensor has the planes of an image, less an average for each plane. -/
structure HasPlanes (t : Tensor) (type : DataType) (image : Image) (average : Nat → Int) :
    Prop where
  type : t.type = type
  shape : t.shape = image.planeShape
  complete : t.IsSound
  levels : ∀ c < 3, ∀ y < image.height, ∀ x < image.width,
    t.shape.place [0, c, y, x] =
        c * image.height * image.width + y * image.width + x ∧
      ∃ e, t.elements[c * image.height * image.width + y * image.width + x]? = some e ∧
        e.value? = some ((((image.pixel y x).level c).toNat : ℚ) - average c)

section Elements
variable {type : DataType} {average : Nat → Int} {given : Option (List Binary)}

def leveled (type : DataType) (given : Option (List Binary)) (c : Nat) (p : Pixel) : Binary :=
  match given with
  | none => Binary.ofInt (p.level c).toNat
  | some values => type.sub (type.fit (Binary.ofInt (p.level c).toNat))
      (type.fit (values[c]?.getD (Binary.ofInt 0)))

theorem imageElements_eq (averages : Averages average given) (image : Image) :
    imageElements type image given =
      (List.range 3).flatMap fun c => image.pixels.map (leveled type given c) := by
  cases averages with
  | none =>
      simp only [imageElements, planes, plane, List.range_succ, List.range_zero, List.nil_append,
        List.cons_append, List.flatMap_cons, List.flatMap_nil, List.flatten_cons, List.flatten_nil]
      rfl
  | each red green blue =>
      simp only [imageElements, planes, plane, List.range_succ, List.range_zero, List.nil_append,
        List.cons_append, List.flatMap_cons, List.flatMap_nil, List.zip_cons_cons,
        List.zip_nil_right, List.map_map]
      rfl

theorem abs_level_lt (p : Pixel) (c : Nat) : |((p.level c).toNat : Int)| < 2 ^ 8 := by
  have byte := (p.level c).toNat_lt
  rw [abs_of_nonneg (Int.natCast_nonneg _)]
  exact_mod_cast byte

theorem leveled_value (plain : ∀ n, type.wrap n = n) (averages : Averages average given)
    (small : ∀ c < 3, |average c| < 2 ^ 23) {c : Nat} (listed : c < 3) (p : Pixel) :
    |((p.level c).toNat : Int) - average c| < 2 ^ 24 ∧
      (leveled type given c p).value? =
        some ((((p.level c).toNat : Int) - average c : Int) : ℚ) := by
  have byte := abs_level_lt p c
  have level := Binary.value_ofInt (p.level c).toNat
  have few := small c listed
  have bound : |((p.level c).toNat : Int) - average c| < 2 ^ 24 := by
    have sum := abs_sub (((p.level c).toNat : Int)) (average c)
    omega
  refine ⟨bound, ?_⟩
  cases averages with
  | none zero =>
      rw [zero c listed, sub_zero]
      exact level
  | each red green blue first second third =>
      have known : (([red, green, blue] : List Binary)[c]?.getD (Binary.ofInt 0)).value? =
          some (average c : ℚ) := by
        interval_cases c
        · exact first
        · exact second
        · exact third
      exact DataType.sub_value plain level known (by omega) (by omega) bound

theorem imageTensor_level (plain : ∀ n, type.wrap n = n) (averages : Averages average given)
    (small : ∀ c < 3, |average c| < 2 ^ 23) (image : Image) {c y x : Nat} (listed : c < 3)
    (row : y < image.height) (column : x < image.width) :
    ∃ e, (imageTensor type image given).elements[
        c * (image.height * image.width) + (y * image.width + x)]? = some e ∧
      e.value? = some ((((image.pixel y x).level c).toNat : ℚ) - average c) := by
  obtain ⟨bound, value⟩ := leveled_value plain averages small listed (image.pixel y x)
  obtain ⟨fitted, encoded⟩ := DataType.fit_integer value (type.hasRoom_of_small bound)
  rw [plain] at fitted
  have even : ∀ c, (image.pixels.map (leveled type given c)).length =
      image.height * image.width := by
    intro c
    rw [List.length_map, image.length_pixels]
  refine ⟨type.fit (leveled type given c (image.pixel y x)), ?_, ?_⟩
  · rw [imageTensor, Tensor.elements_ofElements, List.getElem?_map, imageElements_eq averages image,
      getElem?_flatMap_range 3 _ _ even c _ listed (block_add_lt row column), List.getElem?_map,
      image.getElem?_pixels row column, Option.map_some, Option.map_some, encoded]
  · rw [fitted]
    push_cast
    rfl

end Elements

section Request
variable {op : Operation} {name file : Text} {type : DataType} {average : Nat → Int}

theorem getNumbers_of_declared (declared : ImageRequest.DeclaredBy op name file type average)
    (given : op.has "averageColor" = true) :
    ∃ values, op.getNumbers "averageColor" none = .ok values ∧ values.length = 3 ∧
      Averages average (some values) := by
  rcases declared.averages with ⟨absent, _⟩ | ⟨red, green, blue, present, first, second, third⟩
  · rw [Operation.has, ← Operation.get?, absent] at given
    cases given
  · obtain ⟨a, isRed, redValue⟩ :=
      Operation.toNumber_of_integer first (declared.small 0 (by decide))
    obtain ⟨b, isGreen, greenValue⟩ :=
      Operation.toNumber_of_integer second (declared.small 1 (by decide))
    obtain ⟨c, isBlue, blueValue⟩ :=
      Operation.toNumber_of_integer third (declared.small 2 (by decide))
    refine ⟨[a, b, c], ?_, rfl, .each a b c redValue greenValue blueValue⟩
    rw [Operation.getNumbers_eq_ok_iff]
    exact ⟨_, present, .cons ((Operation.toNumber_eq_ok_iff red a).mp isRed)
      (.cons ((Operation.toNumber_eq_ok_iff green b).mp isGreen)
        (.cons ((Operation.toNumber_eq_ok_iff blue c).mp isBlue) .nil))⟩

theorem ImageRequest.ofOperation_of_declared
    (declared : ImageRequest.DeclaredBy op name file type average) :
    ∃ given, ImageRequest.ofOperation op = .ok ⟨name, file, type, given⟩ ∧
      Averages average given := by
  have output := (op.output_zero_iff name).mpr declared.output
  have text := (op.getText_eq_ok_iff "fileName" file).mpr declared.file
  have known : op.getDataType "dataType" (some (.text "single")) = .ok type := by
    rw [Operation.getDataType_default_iff]
    simp only [DataType.ofManifest_eq_some_iff]
    rcases declared.type with ⟨absent, same⟩ | ⟨present, same⟩ | ⟨present, same⟩
    · rw [absent]
      exact ⟨_, rfl, Or.inl ⟨rfl, same⟩⟩
    · rw [present]
      exact ⟨_, rfl, Or.inl ⟨rfl, same⟩⟩
    · rw [present]
      exact ⟨_, rfl, Or.inr ⟨rfl, same⟩⟩
  cases given : op.has "averageColor" with
  | false =>
      refine ⟨none, ?_, .none ?_⟩
      · simp only [ofOperation, output, text, known, given]
        rfl
      · rcases declared.averages with ⟨_, zero⟩ | ⟨_, _, _, present, _⟩
        · exact zero
        · rw [Operation.has, ← Operation.get?, present] at given
          cases given
  | true =>
      obtain ⟨values, numbers, three, averages⟩ := getNumbers_of_declared declared given
      refine ⟨some values, ?_, averages⟩
      simp only [ofOperation, output, text, known, given, numbers]
      change (if values.length = 3 then _ else _) = _
      rw [if_pos three]
      rfl

theorem wrap_of_declared (declared : ImageRequest.DeclaredBy op name file type average) (n : Int) :
    type.wrap n = n := by
  rcases declared.type with ⟨_, rfl⟩ | ⟨_, rfl⟩ | ⟨_, rfl⟩ <;> rfl

end Request

/-- A path can be one of a file, and decoding the file under it yields an image. -/
structure Yields (setting : Setting) (path : Text) (image : Image) : Prop where
  namable : Path.fault? path = none
  decoded : setting.files.image path = .ok image

/-- There is room for the planes of an image: for its bytes, also if an axis is empty, and for four
dimensions. -/
structure HasRoom (room : Tensor.Room) (type : DataType) (image : Image) : Prop where
  rank : 4 ≤ room.rank
  addresses : 3 * (max 1 image.height * max 1 image.width) * type.size < Tensor.addressLimit
  bytes : Tensor.byteCount type image.planeShape < room.bytes

theorem numel_planeShape_filter (image : Image) :
    numel (image.planeShape.filter (· ≠ 0)) = 3 * (max 1 image.height * max 1 image.width) := by
  have counts : ∀ n : Nat, ([n].filter (· ≠ 0)).prod = max 1 n := by
    intro n
    rcases Nat.eq_zero_or_pos n with rfl | positive
    · rfl
    · rw [List.filter_cons_of_pos (by simpa using positive.ne'), List.filter_nil,
        List.prod_singleton, max_eq_right positive]
  have parts : image.planeShape = [1] ++ [3] ++ [image.height] ++ [image.width] := rfl
  rw [numel_eq_prod, parts]
  simp only [List.filter_append, List.prod_append, counts]
  rw [Nat.mul_assoc, max_eq_right (show 1 ≤ 3 by decide), max_self, Nat.one_mul]

theorem canAllocate_planeShape {room : Tensor.Room} {type : DataType} {image : Image}
    (roomy : HasRoom room type image) : Tensor.canAllocate room type image.planeShape = true := by
  have size : 1 ≤ type.size := by cases type <;> decide
  have counted := roomy.addresses
  rw [← numel_planeShape_filter] at counted
  have places : max 1 image.height * max 1 image.width < Tensor.addressLimit := by
    have less := roomy.addresses
    have grows := Nat.le_mul_of_pos_right (3 * (max 1 image.height * max 1 image.width)) size
    omega
  have height : image.height < Tensor.addressLimit :=
    ((le_max_right 1 _).trans (Nat.le_mul_of_pos_right _ (by omega))).trans_lt places
  have width : image.width < Tensor.addressLimit :=
    ((le_max_right 1 _).trans (Nat.le_mul_of_pos_left _ (by omega))).trans_lt places
  have three : 3 < Tensor.addressLimit := by decide
  have short : image.planeShape.any (Tensor.addressLimit ≤ ·) = false := by
    simp only [Image.planeShape, List.any_cons, List.any_nil, Bool.or_false, Bool.or_eq_false_iff,
      decide_eq_false_iff_not, not_le]
    omega
  have rank : ¬ room.rank < image.planeShape.length := not_lt.mpr roomy.rank
  rw [Tensor.canAllocate, Tensor.shortage?, if_neg rank, short, if_neg (not_le.mpr counted),
    if_neg (not_le.mpr roomy.bytes)]
  rfl

/-- What comes of an image that is to be loaded. -/
structure LaysOut (ws : Workspace) (name : Text) (type : DataType) (image : Image)
    (average : Nat → Int) (outcome : Outcome (Option Status)) : Prop where
  succeeds : outcome.result = .ok (some .success) ↔
    (∃ id, ws.Holds name type image.planeShape id) ∨
      Tensor.canAllocate ws.available.tensor type image.planeShape = true
  always : HasRoom ws.available.tensor type image → outcome.result = .ok (some .success)
  fails : outcome.result ≠ .ok (some .success) →
    outcome.result = .error (Workspace.allocationFailure name type image.planeShape)
  contents : outcome.result = .ok (some .success) →
    ∃ id t, outcome.workspace.Gives name id t ∧ HasPlanes t type image average
  reuses : outcome.result = .ok (some .success) →
    Reuses name type image.planeShape ws outcome.workspace

section Load
variable {setting : Setting} {op : Operation} {ws : Workspace}

theorem loadImage_stored {r : ImageRequest} {image : Image}
    (request : ImageRequest.ofOperation op = .ok r)
    (wanted : isKept setting.config r.name ws = false)
    (yields : Yields setting (ws.resolve r.file) image) :
    ∃ result, (loadImage setting op ws).result = result.map (fun _ => some .success) ∧
      Stored r.name (imageTensor r.type image r.average) ws result
        (loadImage setting op ws).workspace := by
  have pictured := loadImage_pictured setting op ws
  generalize (loadImage setting op ws).result = result,
    (loadImage setting op ws).workspace = after at pictured ⊢
  cases pictured with
  | malformed e bad =>
      rw [request] at bad
      cases bad
  | kept _ again there =>
      cases request.symm.trans again
      rw [wanted] at there
      cases there
  | unnamable _ fault again _ noPath =>
      cases request.symm.trans again
      rw [yields.namable] at noPath
      cases noPath
  | undecodable _ fault again _ broken =>
      cases request.symm.trans again
      cases yields.decoded.symm.trans broken
  | unreadable _ problem again _ broken _ =>
      cases request.symm.trans again
      cases yields.decoded.symm.trans broken
  | ignored _ problem again _ broken _ =>
      cases request.symm.trans again
      cases yields.decoded.symm.trans broken
  | decoded _ other result _ again _ whole stored =>
      cases request.symm.trans again
      cases yields.decoded.symm.trans whole
      exact ⟨result, rfl, stored⟩

theorem hasPlanes_of_averages {type : DataType} {image : Image} {average : Nat → Int}
    {given : Option (List Binary)} (plain : ∀ n, type.wrap n = n)
    (averages : Averages average given) (small : ∀ c < 3, |average c| < 2 ^ 23) :
    HasPlanes (imageTensor type image given) type image average where
  type := rfl
  shape := rfl
  complete := by
    apply imageTensor_sound
    rintro values rfl
    cases averages
    rfl
  levels c listed y row x column := by
    have place : c * image.height * image.width + y * image.width + x =
        c * (image.height * image.width) + (y * image.width + x) := by ring
    refine ⟨?_, ?_⟩
    · change image.planeShape.place [0, c, y, x] = _
      simp only [Image.planeShape, Shape.place, List.prod_cons, List.prod_nil]
      ring
    · rw [place]
      exact imageTensor_level plain averages small image listed row column

/-- An image that the decoder yields is loaded as three planes, each with its pixels in row-major
order and less its average, whatever was under the name before. This takes room for them. -/
theorem loadImage_lays_out {name file : Text} {type : DataType} {average : Nat → Int}
    {image : Image} (declared : ImageRequest.DeclaredBy op name file type average)
    (wanted : ws.contains name = true → setting.config.forceReload = true)
    (yields : Yields setting (ws.resolve file) image) :
    LaysOut ws name type image average (loadImage setting op ws) := by
  obtain ⟨given, request, averages⟩ := ImageRequest.ofOperation_of_declared declared
  obtain ⟨result, same, stored⟩ := loadImage_stored request (isKept_of_wanted wanted) yields
  have planes : HasPlanes (imageTensor type image given) type image average :=
    hasPlanes_of_averages (wrap_of_declared declared) averages declared.small
  have ok : (loadImage setting op ws).result = .ok (some .success) ↔ result = .ok () := by
    rw [same]
    cases result <;> simp [Except.map]
  have place := stored_ok_iff stored
  have found : (loadImage setting op ws).result = .ok (some .success) →
      (loadImage setting op ws).workspace.tensor? name = some (imageTensor type image given) ∧
        Reuses name type image.planeShape ws (loadImage setting op ws).workspace := by
    intro done
    rw [ok.mp done] at stored
    exact stored_ok stored
  constructor
  · exact ok.trans place
  · intro roomy
    exact ok.mpr (place.mpr (Or.inr (canAllocate_planeShape roomy)))
  · intro failed
    rw [same]
    generalize (loadImage setting op ws).workspace = after at stored
    cases stored with
    | reused => exact absurd (ok.mpr rfl) failed
    | made => exact absurd (ok.mpr rfl) failed
    | refused => rfl
  · intro done
    obtain ⟨id, gives⟩ := (Workspace.tensor_eq_some_iff _).mp (found done).1
    exact ⟨id, _, gives, planes⟩
  · exact fun done => (found done).2

end Load

def pixmap : List UInt8 :=
  [0x50, 0x36, 0x0A, 0x32, 0x20, 0x31, 0x0A, 0x32, 0x35, 0x35, 0x0A, 10, 20, 30, 40, 50, 60]

def twoPixels : Image := .ofRows 2 1 [[⟨10, 20, 30⟩, ⟨40, 50, 60⟩]]

def loadPixmap : Operation where
  type := "LoadImage"
  outputs := ["x"]
  fields := [("fileName", .text "x.ppm"),
    ("averageColor", .array [.int 1, .real (.finite false 1 1), .int (-3)])]

theorem loadImage_lays_out_pixmap :
    let setting : Setting := ⟨{}, .ofContents fun _ => .ok pixmap⟩
    let ws : Workspace := {}
    (loadImage setting loadPixmap ws).result = .ok (some .success) ∧
      ∃ id t e, (loadImage setting loadPixmap ws).workspace.Gives "x" id t ∧
        t.shape = [1, 3, 1, 2] ∧ t.elements[3]? = some e ∧ e.value? = some 48 := by
  intro setting ws
  let average : Nat → Int := fun c => ([1, 2, -3] : List Int).getD c 0
  have declared : ImageRequest.DeclaredBy loadPixmap "x" "x.ppm" .float32 average := by
    refine ⟨rfl, rfl, Or.inl ⟨rfl, rfl⟩, Or.inr ⟨_, _, _, rfl, Or.inl rfl, ?_, Or.inl rfl⟩, ?_⟩
    · exact Or.inr ⟨_, rfl, by norm_num [Binary.value_finite, average]⟩
    · decide
  have yields : Yields setting (ws.resolve "x.ppm") twoPixels := ⟨by decide +kernel, rfl⟩
  have missing : ws.contains "x" = true → setting.config.forceReload = true := by decide
  have laysOut := loadImage_lays_out declared missing yields
  have done := laysOut.always ⟨by decide, by decide, by decide⟩
  obtain ⟨id, t, gives, planes⟩ := laysOut.contents done
  obtain ⟨_, e, element, value⟩ :=
    planes.levels 1 (by decide) 0 (by decide) 1 (by decide)
  refine ⟨done, id, t, e, gives, planes.shape, element, ?_⟩
  have level : ((twoPixels.pixel 0 1).level 1).toNat = 50 := rfl
  rw [value, level]
  norm_num [average]

end Handler
end TensorBundle
