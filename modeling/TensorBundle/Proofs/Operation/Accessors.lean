import Mathlib
import TensorBundle.Proofs.Binary
import TensorBundle.Proofs.Json.Legible
import TensorBundle.Proofs.Operation.Fields
/-!
The accessors of an operation against the entry it was read from: what each takes, and how it ends
where it does not. Only numbers can end in anything but an error of the operation, unless the field
has an integer that no error can show.
-/
namespace TensorBundle

namespace Binary

/-- The least integer that is too large for a floating-point number: the greatest of these and half
a step. -/
def integerLimit : Nat := (2 ^ 54 - 1) * 2 ^ 970

theorem double_limit : double.limit = integerLimit := by
  have precision : 2 * 2 ^ double.precision = 2 ^ 54 := by decide
  have exponent : double.greatest.toNat - 1 = 970 := by decide
  rw [Format.limit, precision, exponent, integerLimit]

theorem integerLimit_le : integerLimit ≤ 2 ^ 1024 := by
  have parts := pow_add 2 54 970
  rw [show 54 + 970 = 1024 from rfl] at parts
  rw [parts]
  exact Nat.mul_le_mul_right _ (Nat.sub_le _ _)

/-- Rounding an integer leaves a format exactly from its limit on. -/
theorem Format.roundFinite_integer_iff {f : Format} (regular : f.IsRegular)
    (coarse : 1 ≤ f.greatest) (negative : Bool) (m : Nat) :
    (∃ sign, f.roundFinite negative m 0 = .infinite sign) ↔ f.limit ≤ m := by
  simpa using roundFinite_infinite_iff_limit regular coarse negative m 0

end Binary

namespace Operation

section Numbers
variable {op : Operation} {key : Text}

def IsNumber (document : Json) : Prop := (∃ n, document = .int n) ∨ ∃ x, document = .real x

def IsBeyondFloat (n : Int) : Prop :=
  ∃ negative, Binary.double.round (.ofInt n) = .infinite negative

theorem isBeyondFloat_iff (n : Int) :
    IsBeyondFloat n ↔ Binary.integerLimit ≤ n.natAbs := by
  rw [← Binary.double_limit]
  exact Binary.Format.roundFinite_integer_iff Binary.Format.double_isRegular (by decide) _ _

theorem isNumber_of_mapM {items : List Json} {found : List (Except Fault Binary)}
    (read : items.mapM toNumber = some found) : ∀ item ∈ items, IsNumber item := by
  induction items generalizing found with
  | nil => simp
  | cons first rest ih =>
      rw [List.mapM_cons] at read
      obtain ⟨number, isFirst, read⟩ := Option.bind_eq_some_iff.mp read
      obtain ⟨others, isRest, _⟩ := Option.bind_eq_some_iff.mp read
      intro item member
      rcases List.mem_cons.mp member with rfl | later
      · cases item with
        | int n => exact Or.inl ⟨n, rfl⟩
        | real x => exact Or.inr ⟨x, rfl⟩
        | null => cases isFirst
        | bool b => cases isFirst
        | text t => cases isFirst
        | array items => cases isFirst
        | object members => cases isFirst
      · exact ih isRest item later

theorem toNumber_cases {item : Json} (number : IsNumber item) :
    (∃ x, toNumber item = some (.ok x) ∧ ∀ n, item = .int n → ¬ IsBeyondFloat n) ∨
    ∃ n, item = .int n ∧ IsBeyondFloat n ∧
      toNumber item = some (.error .integerBeyondFloat) := by
  rcases number with ⟨n, rfl⟩ | ⟨x, rfl⟩
  · cases rounded : Binary.double.round (.ofInt n) with
    | infinite negative =>
        exact Or.inr ⟨n, rfl, ⟨negative, rounded⟩, by simp [toNumber, rounded]⟩
    | nan =>
        refine Or.inl ⟨.nan, by simp [toNumber, rounded], ?_⟩
        rintro m ⟨⟩ ⟨negative, infinite⟩
        rw [rounded] at infinite
        cases infinite
    | finite negative m q =>
        refine Or.inl ⟨.finite negative m q, by simp [toNumber, rounded], ?_⟩
        rintro other ⟨⟩ ⟨sign, infinite⟩
        rw [rounded] at infinite
        cases infinite
  · exact Or.inl ⟨x, rfl, fun n same => by cases same⟩

theorem mapM_ok_cons (x : Binary) (others : List (Except Fault Binary)) (fault : Fault) :
    (.ok x :: others : List (Except Fault Binary)).mapM id = .error fault ↔
      others.mapM id = .error fault := by
  rw [List.mapM_cons]
  change (others.mapM id >>= _) = _ ↔ _
  cases others.mapM id with
  | error other => exact Iff.rfl
  | ok values =>
      constructor
      · intro failed
        cases failed
      · intro failed
        cases failed

theorem mapM_error_cons (first : Fault) (others : List (Except Fault Binary)) (fault : Fault) :
    (.error first :: others : List (Except Fault Binary)).mapM id = .error fault ↔
      fault = first := by
  rw [List.mapM_cons]
  change (Except.error first : Except Fault (List Binary)) = _ ↔ _
  rw [Except.error.injEq, eq_comm]

/-- Numbers are read up to the first integer beyond the floating-point numbers. -/
theorem mapM_toNumber {items : List Json} (numbers : ∀ item ∈ items, IsNumber item) :
    ∃ found, items.mapM toNumber = some found ∧ ∀ fault, found.mapM id = .error fault ↔
      fault = .integerBeyondFloat ∧ ∃ n, .int n ∈ items ∧ IsBeyondFloat n := by
  induction items with
  | nil =>
      refine ⟨[], rfl, fun fault => ⟨fun failed => (by cases failed), ?_⟩⟩
      rintro ⟨_, n, member, _⟩
      cases member
  | cons first rest ih =>
      obtain ⟨others, isRest, fails⟩ :=
        ih fun item member => numbers item (List.mem_cons_of_mem _ member)
      rcases toNumber_cases (numbers first List.mem_cons_self) with
        ⟨x, isFirst, near⟩ | ⟨n, rfl, beyond, isFirst⟩
      · refine ⟨.ok x :: others, by rw [List.mapM_cons, isFirst, isRest]; rfl, fun fault => ?_⟩
        rw [mapM_ok_cons, fails]
        refine and_congr_right fun _ => ?_
        constructor
        · rintro ⟨n, later, beyond⟩
          exact ⟨n, List.mem_cons_of_mem _ later, beyond⟩
        · rintro ⟨n, member, beyond⟩
          rcases List.mem_cons.mp member with here | later
          · exact absurd beyond (near n here.symm)
          · exact ⟨n, later, beyond⟩
      · refine ⟨.error .integerBeyondFloat :: others,
          by rw [List.mapM_cons, isFirst, isRest]; rfl, fun fault => ?_⟩
        rw [mapM_error_cons]
        constructor
        · intro same
          exact ⟨same, n, List.mem_cons_self, beyond⟩
        · rintro ⟨same, _⟩
          exact same

def StandsFor (item : Json) (x : Binary) : Prop :=
  item = .real x ∨
    ∃ n, item = .int n ∧ n.natAbs < Binary.integerLimit ∧ Binary.double.round (.ofInt n) = x

theorem toNumber_eq_ok_iff (item : Json) (x : Binary) :
    toNumber item = some (.ok x) ↔ StandsFor item x := by
  unfold StandsFor
  cases item with
  | real y => simp [toNumber]
  | int n =>
      have near : n.natAbs < Binary.integerLimit ↔ ¬ IsBeyondFloat n := by
        rw [isBeyondFloat_iff, not_le]
      simp only [Json.int.injEq, exists_eq_left', near, IsBeyondFloat, toNumber]
      cases rounded : Binary.double.round (.ofInt n) <;> simp
  | null => simp [toNumber]
  | bool b => simp [toNumber]
  | text t => simp [toNumber]
  | array items => simp [toNumber]
  | object members => simp [toNumber]

theorem mapM_toNumber_eq_ok_iff (items : List Json) (numbers : List Binary) :
    (∃ found, items.mapM toNumber = some found ∧ found.mapM id = .ok numbers) ↔
      List.Forall₂ StandsFor items numbers := by
  induction items generalizing numbers with
  | nil =>
      constructor
      · rintro ⟨_, ⟨⟩, done⟩
        cases done
        exact .nil
      · intro each
        cases each
        exact ⟨[], rfl, rfl⟩
  | cons item rest ih =>
      constructor
      · rintro ⟨found, read, done⟩
        rw [List.mapM_cons] at read
        obtain ⟨first, isFirst, read⟩ := Option.bind_eq_some_iff.mp read
        obtain ⟨others, isRest, read⟩ := Option.bind_eq_some_iff.mp read
        cases read
        rw [List.mapM_cons] at done
        obtain ⟨x, here, done⟩ := bind_eq_ok done
        obtain ⟨xs, later, done⟩ := bind_eq_ok done
        cases done
        cases here
        exact .cons ((toNumber_eq_ok_iff item x).mp isFirst) ((ih xs).mp ⟨others, isRest, later⟩)
      · intro each
        cases each with
        | @cons _ x _ xs here later =>
            obtain ⟨others, isRest, done⟩ := (ih xs).mpr later
            refine ⟨.ok x :: others, ?_, ?_⟩
            · rw [List.mapM_cons, (toNumber_eq_ok_iff item x).mpr here, isRest]
              rfl
            · rw [List.mapM_cons, done]
              rfl

theorem isNumber_of_standsFor {items : List Json} {numbers : List Binary}
    (each : List.Forall₂ StandsFor items numbers) : ∀ item ∈ items, IsNumber item := by
  refine forall_of_forall₂ each.flip (fun _ _ => trivial) fun x item _ stands => ?_
  rcases stands with real | ⟨n, int, _⟩
  · exact Or.inr ⟨x, real⟩
  · exact Or.inl ⟨n, int⟩

def GivesNumbers (op : Operation) (key : Text) (items : List Json) : Prop :=
  op.get? key = some (.array items) ∧ ∀ item ∈ items, IsNumber item

theorem getNumbers_of_given {items : List Json} (given : op.GivesNumbers key items) :
    ∃ found, items.mapM toNumber = some found ∧
      op.getNumbers key none = (found.mapM id).mapError Failure.fault := by
  obtain ⟨found, read, _⟩ := mapM_toNumber given.2
  refine ⟨found, read, ?_⟩
  have required := (op.require_eq_ok_iff key _).mpr given.1
  rw [getNumbers, required]
  simp only [bind, Except.bind, Except.mapError, read]

theorem getNumbers_of_other (other : ∀ items, ¬ op.GivesNumbers key items) :
    ∃ e, op.IsFieldError key e ∧ op.getNumbers key none = .error e.raised := by
  cases required : op.require key none with
  | error e =>
      refine ⟨e, failsByField_require none e required, ?_⟩
      rw [getNumbers, required]
      rfl
  | ok value =>
      have present := (op.require_eq_ok_iff key value).mp required
      refine ⟨op.badField key value (.fieldNotNumbers key), isFieldError_badField present rfl, ?_⟩
      rw [getNumbers, required]
      cases value with
      | array items =>
          have unread : items.mapM toNumber = none := by
            cases read : items.mapM toNumber with
            | none => rfl
            | some found => exact absurd ⟨present, isNumber_of_mapM read⟩ (other items)
          simp only [bind, Except.bind, Except.mapError, unread]
      | null => rfl
      | bool b => rfl
      | int n => rfl
      | real x => rfl
      | text t => rfl
      | object members => rfl

theorem getNumbers_eq_ok_iff (numbers : List Binary) :
    op.getNumbers key none = .ok numbers ↔
      ∃ items, op.get? key = some (.array items) ∧ List.Forall₂ StandsFor items numbers := by
  constructor
  · intro given
    by_cases listed : ∃ items, op.GivesNumbers key items
    · obtain ⟨items, gives⟩ := listed
      obtain ⟨found, read, same⟩ := getNumbers_of_given gives
      refine ⟨items, gives.1, (mapM_toNumber_eq_ok_iff items numbers).mp ⟨found, read, ?_⟩⟩
      rw [same] at given
      cases done : found.mapM id with
      | error fault => rw [done] at given; cases given
      | ok values => rw [done] at given; cases given; rfl
    · obtain ⟨e, _, failed⟩ := getNumbers_of_other (not_exists.mp listed)
      rw [failed] at given
      cases given
  · rintro ⟨items, present, each⟩
    obtain ⟨found, read, same⟩ := getNumbers_of_given ⟨present, isNumber_of_standsFor each⟩
    obtain ⟨again, readAgain, done⟩ := (mapM_toNumber_eq_ok_iff items numbers).mpr each
    cases read.symm.trans readAgain
    rw [same, done]
    rfl

theorem getNumbers_error_of_given {items : List Json} (given : op.GivesNumbers key items)
    (failure : Failure) : op.getNumbers key none = .error failure ↔
      failure = .fault .integerBeyondFloat ∧ ∃ n, .int n ∈ items ∧ IsBeyondFloat n := by
  obtain ⟨found, read, same⟩ := getNumbers_of_given given
  obtain ⟨again, readAgain, fails⟩ := mapM_toNumber given.2
  cases read.symm.trans readAgain
  rw [same]
  constructor
  · intro failed
    cases done : found.mapM id with
    | ok values =>
        rw [done] at failed
        cases failed
    | error fault =>
        rw [done] at failed
        cases failed
        obtain ⟨rfl, beyond⟩ := (fails fault).mp done
        exact ⟨rfl, beyond⟩
  · rintro ⟨rfl, beyond⟩
    rw [(fails _).mpr ⟨rfl, beyond⟩]
    rfl

theorem getNumbers_error_cases {failure : Failure}
    (failed : op.getNumbers key none = .error failure) :
    ((∃ items, op.GivesNumbers key items ∧ ∃ n, .int n ∈ items ∧ IsBeyondFloat n) ∧
      failure = .fault .integerBeyondFloat) ∨
    ((∀ items, ¬ op.GivesNumbers key items) ∧
      ∃ e, op.IsFieldError key e ∧ failure = e.raised) := by
  by_cases listed : ∃ items, op.GivesNumbers key items
  · left
    obtain ⟨items, gives⟩ := listed
    obtain ⟨same, beyond⟩ := (getNumbers_error_of_given gives failure).mp failed
    exact ⟨⟨items, gives, beyond⟩, same⟩
  · right
    obtain ⟨e, isField, same⟩ := getNumbers_of_other (not_exists.mp listed)
    cases same.symm.trans failed
    exact ⟨not_exists.mp listed, e, isField, rfl⟩

theorem getNumbers_fault_iff (op : Operation) (key : Text) (fault : Fault) :
    op.getNumbers key none = .error (.fault fault) ↔
      (fault = .integerBeyondFloat ∧
        ∃ items, op.GivesNumbers key items ∧ ∃ n, .int n ∈ items ∧ IsBeyondFloat n) ∨
      (fault = .unwritableInteger ∧ (∀ items, ¬ op.GivesNumbers key items) ∧
        op.HasUnwritable key) := by
  constructor
  · intro failed
    rcases getNumbers_error_cases failed with ⟨beyond, same⟩ | ⟨other, e, isField, same⟩
    · cases same
      exact Or.inl ⟨rfl, beyond⟩
    · obtain ⟨rfl, unwritable⟩ := (e.raised_eq_fault_iff fault).mp same.symm
      exact Or.inr ⟨rfl, other, isField.2.mp unwritable⟩
  · rintro (⟨rfl, items, gives, beyond⟩ | ⟨rfl, other, unwritable⟩)
    · exact (getNumbers_error_of_given gives _).mpr ⟨rfl, beyond⟩
    · obtain ⟨e, isField, failed⟩ := getNumbers_of_other other
      rw [failed, BundleError.raised_of_unwritable (isField.2.mpr unwritable)]

theorem getNumbers_error_iff : (∃ e, op.getNumbers key none = .error (.error e)) ↔
    (∀ items, ¬ op.GivesNumbers key items) ∧ ¬ op.HasUnwritable key := by
  constructor
  · rintro ⟨e, failed⟩
    rcases getNumbers_error_cases failed with ⟨_, same⟩ | ⟨other, own, isField, same⟩
    · cases same
    · obtain ⟨rfl, writable⟩ := (own.raised_eq_error_iff e).mp same.symm
      refine ⟨other, fun unwritable => ?_⟩
      rw [isField.2.mpr unwritable] at writable
      cases writable
  · rintro ⟨other, worded⟩
    obtain ⟨e, isField, failed⟩ := getNumbers_of_other other
    have writable : e.isWritable = true := by
      by_contra bad
      exact worded (isField.2.mp (by simpa using bad))
    exact ⟨e, by rw [failed, BundleError.raised_of_writable writable]⟩

end Numbers

def fieldOf (members : List (Text × Json)) (key : Text) : Option Json :=
  if reservedKeys.contains key then none else Json.member? key members

theorem get_of_ofJson {members : List (Text × Json)} {op : Operation}
    (read : ofJson (.object members) = .ok op) (key : Text) :
    op.get? key = fieldOf members key := by
  obtain ⟨_, same, described⟩ := (ofJson_eq_ok_iff _ op).mp read
  cases same
  have kept := Json.member_filter (fun name => !reservedKeys.contains name) key members
  rw [get?, described.fields, kept, fieldOf]
  cases reservedKeys.contains key <;> rfl

def IsUnshowable (field : Option Json) : Prop :=
  ∃ value, field = some value ∧ value.isWritable = false

/-- An accessor that gives what is wanted, and where nothing is, raises an error of the operation.
That error cannot be worded where it cannot show the value of the field. -/
structure Access {α : Type} (op : Operation) (key : Text) (field : Option Json)
    (result : Except Failure α) (wanted : α → Prop) : Prop where
  given : ∀ a, result = .ok a ↔ wanted a
  refused : (∃ e, result = .error (.error e)) ↔ (∀ a, ¬ wanted a) ∧ ¬ IsUnshowable field
  named : ∀ e, result = .error (.error e) →
    ∃ problem value, e = .configuration problem (some key) value (some op.type)
  escapes : ∀ fault, result = .error (.fault fault) ↔
    fault = .unwritableInteger ∧ (∀ a, ¬ wanted a) ∧ IsUnshowable field

/-- How the numbers of a field are read: all items are numbers or the field is refused, and an
integer among them that is too large ends it in a fault. -/
structure NumbersAccess (op : Operation) (key : Text) (field : Option Json) : Prop where
  given : ∀ numbers, op.getNumbers key none = .ok numbers ↔
    ∃ items, field = some (.array items) ∧ List.Forall₂ StandsFor items numbers
  refused : (∃ e, op.getNumbers key none = .error (.error e)) ↔
    (¬ ∃ items, field = some (.array items) ∧ ∀ item ∈ items, IsNumber item) ∧
      ¬ IsUnshowable field
  named : ∀ e, op.getNumbers key none = .error (.error e) →
    ∃ problem value, e = .configuration problem (some key) value (some op.type)
  escapes : ∀ fault, op.getNumbers key none = .error (.fault fault) ↔
    (fault = .integerBeyondFloat ∧
      ∃ items, field = some (.array items) ∧ (∀ item ∈ items, IsNumber item) ∧
        ∃ n, .int n ∈ items ∧ Binary.integerLimit ≤ n.natAbs) ∨
    (fault = .unwritableInteger ∧
      (¬ ∃ items, field = some (.array items) ∧ ∀ item ∈ items, IsNumber item) ∧
      IsUnshowable field)

/-- What the accessors make of one field, where an error is raised. -/
structure Accessors (op : Operation) (key : Text) (field : Option Json) : Prop where
  text : Access op key field ((op.getText key none).mapError BundleError.raised) fun text =>
    field = some (.text text)
  int : Access op key field ((op.getInt key none).mapError BundleError.raised) fun n =>
    field = some (.int n)
  ints : Access op key field ((op.getInts key none).mapError BundleError.raised) fun ints =>
    ∃ document, field = some document ∧ document.GivesInts ints
  numbers : NumbersAccess op key field
  shape : Access op key field ((op.getShape key).mapError BundleError.raised) fun shape =>
    ∃ document, field = some document ∧ document.GivesInts (shape.map Int.ofNat)
  dataType : Access op key field ((op.getDataType key none).mapError BundleError.raised) fun type =>
    (field = some (.text "single") ∧ type = .float32) ∨
      (field = some (.text "double") ∧ type = .float64)

section Access
variable {op : Operation} {key : Text}

theorem access_of_failsByField {α : Type} {r : Except BundleError α} {wanted : α → Prop}
    (given : ∀ a, r = .ok a ↔ wanted a) (fails : op.FailsByField key r) :
    Access op key (op.get? key) (r.mapError BundleError.raised) wanted where
  given a := (mapError_raised_eq_ok_iff a).trans (given a)
  refused := by
    cases result : r with
    | ok a =>
        have wants := (given a).mp result
        constructor
        · rintro ⟨e, failed⟩
          cases failed
        · rintro ⟨none, _⟩
          exact absurd wants (none a)
    | error e =>
        have none : ∀ a, ¬ wanted a := fun a wants => by
          cases result.symm.trans ((given a).mpr wants)
        have worded := (fails e result).2
        simp only [Except.mapError, Except.error.injEq, BundleError.raised_eq_error_iff]
        rw [IsUnshowable, ← HasUnwritable, ← worded]
        simp [none]
  named e failed := (fails e ((mapError_raised_eq_error_iff e).mp failed).1).1
  escapes fault := by
    rw [mapError_raised_eq_fault_iff, isUnwritable_iff fails]
    simp only [ne_eq, given]
    exact Iff.rfl

end Access

theorem numbersAccess (op : Operation) (key : Text) : NumbersAccess op key (op.get? key) where
  given := getNumbers_eq_ok_iff
  refused := by
    rw [getNumbers_error_iff, ← not_exists]
    exact Iff.rfl
  named e failed := by
    rcases getNumbers_error_cases failed with ⟨_, same⟩ | ⟨_, own, isField, same⟩
    · cases same
    · obtain ⟨rfl, _⟩ := (own.raised_eq_error_iff e).mp same.symm
      exact isField.1
  escapes fault := by
    rw [getNumbers_fault_iff, ← not_exists]
    simp only [isBeyondFloat_iff, GivesNumbers, and_assoc]
    exact Iff.rfl

theorem getDataType_eq_ok_iff_spelled (op : Operation) (key : Text) (type : DataType) :
    op.getDataType key none = .ok type ↔
      (op.get? key = some (.text "single") ∧ type = .float32) ∨
        (op.get? key = some (.text "double") ∧ type = .float64) := by
  rw [getDataType_eq_ok_iff]
  simp only [DataType.ofManifest_eq_some_iff]
  constructor
  · rintro ⟨word, present, ⟨rfl, same⟩ | ⟨rfl, same⟩⟩
    · exact Or.inl ⟨present, same⟩
    · exact Or.inr ⟨present, same⟩
  · rintro (⟨present, same⟩ | ⟨present, same⟩)
    · exact ⟨_, present, Or.inl ⟨rfl, same⟩⟩
    · exact ⟨_, present, Or.inr ⟨rfl, same⟩⟩

/-- Every accessor of an operation that was read gives exactly what the entry has under the key, if
it is of the kind that the accessor is for. Otherwise there is an error in the configuration that
names the field, but for one condition: a list of numbers with an integer that no floating-point
number is near to ends in a fault. An integer that no error can show would be another, but no entry
that was read from a text has one. -/
theorem accessors_of_ofJson (members : List (Text × Json)) (op : Operation)
    (read : ofJson (.object members) = .ok op) (key : Text) :
    Accessors op key (fieldOf members key) ∧
      ∀ text, Json.read text = .ok (.object members) → ¬ IsUnshowable (fieldOf members key) := by
  rw [← get_of_ofJson read key]
  constructor
  · exact {
      text := access_of_failsByField (op.getText_eq_ok_iff key) (failsByField_getText nofun)
      int := access_of_failsByField (op.getInt_eq_ok_iff key) failsByField_getInt
      ints := access_of_failsByField (op.getInts_eq_ok_iff key) (failsByField_getInts nofun)
      numbers := numbersAccess op key
      shape := access_of_failsByField (op.getShape_eq_ok_iff key) failsByField_getShape
      dataType := access_of_failsByField (op.getDataType_eq_ok_iff_spelled key)
        (failsByField_getDataType nofun) }
  · intro text parsed
    exact isWritable_of_ofJson (Json.isWritable_of_read parsed) read key

def mixedPadding : List (Text × Json) :=
  [("type", .text "Conv"), ("pad", .array [.int 1, .bool true])]

theorem accessors_of_mixedPadding : ∃ op, ofJson (.object mixedPadding) = .ok op ∧
    Accessors op "pad" (some (.array [.int 1, .bool true])) :=
  ⟨_, rfl, (accessors_of_ofJson mixedPadding _ rfl "pad").1⟩

def largeAverage : List (Text × Json) :=
  [("type", .text "LoadImage"), ("averageColor", .array [.int (2 ^ 1024 : Nat)])]

/-- A list of one number is given by no accessor and is no error of the operation either. -/
theorem getNumbers_largeAverage : ∃ op, ofJson (.object largeAverage) = .ok op ∧
    op.get? "averageColor" = some (.array [.int (2 ^ 1024 : Nat)]) ∧
    op.getNumbers "averageColor" none = .error (.fault .integerBeyondFloat) := by
  refine ⟨_, rfl, rfl, ?_⟩
  apply (getNumbers_fault_iff _ "averageColor" _).mpr
  refine Or.inl ⟨rfl, [.int (2 ^ 1024 : Nat)], ⟨rfl, ?_⟩, (2 ^ 1024 : Nat),
    List.mem_singleton_self _, ?_⟩
  · intro item listed
    exact Or.inl ⟨_, List.mem_singleton.mp listed⟩
  · rw [isBeyondFloat_iff, Int.natAbs_natCast]
    exact Binary.integerLimit_le

end Operation
end TensorBundle
