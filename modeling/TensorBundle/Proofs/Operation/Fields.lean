import Mathlib
import TensorBundle.Operation
import TensorBundle.Proofs.Action
import TensorBundle.Proofs.Json.Members
/-!
Operations and the entries of a manifest: which entries are operations and which operation an entry
is, what is written for an operation, and what its fields have to be for the accessors to give a
value.
-/
namespace TensorBundle

namespace Operation
variable {members : List (Text × Json)}

/-- The names of tensors that an entry gives under a key; without the key there are none. -/
def NamesUnder (key : Text) (members : List (Text × Json)) (names : List Text) : Prop :=
  (Json.member? key members = none ∧ names = []) ∨
    Json.member? key members = some (.array (names.map .text))

structure DescribedBy (members : List (Text × Json)) (op : Operation) : Prop where
  type : Json.member? "type" members = some (.text op.type)
  inputs : NamesUnder "inputs" members op.inputs
  outputs : NamesUnder "outputs" members op.outputs
  fields : op.fields = members.filter fun m => !reservedKeys.contains m.1

def TextsUnder (key : Text) (members : List (Text × Json)) : Prop :=
  ∀ value, Json.member? key members = some value → ∃ names : List Text,
    value = .array (names.map .text)

/-- An entry of a manifest that is an operation. -/
def IsEntry (entry : Json) : Prop :=
  ∃ members, entry = .object members ∧
    (∃ type, Json.member? "type" members = some (.text type)) ∧
    TextsUnder "inputs" members ∧ TextsUnder "outputs" members

theorem namesOfEntry_eq_ok_iff (type key : Text) (names : List Text) :
    namesOfEntry type key members = .ok names ↔ NamesUnder key members names := by
  unfold namesOfEntry NamesUnder
  cases Json.member? key members with
  | none => simp [eq_comm]
  | some value =>
      cases value with
      | array items =>
          rw [Option.some.injEq, Json.array.injEq, ← Json.texts_eq_some_iff]
          dsimp only
          cases Json.texts? items <;> simp
      | null => simp
      | bool b => simp
      | int n => simp
      | real x => simp
      | text t => simp
      | object members => simp

theorem ofJson_eq_ok_iff (entry : Json) (op : Operation) :
    ofJson entry = .ok op ↔ ∃ members, entry = .object members ∧ DescribedBy members op := by
  constructor
  · intro read
    unfold ofJson at read
    split at read
    · rename_i members
      split at read
      · rename_i type typed
        obtain ⟨inputs, readInputs, read⟩ := bind_eq_ok read
        obtain ⟨outputs, readOutputs, read⟩ := bind_eq_ok read
        cases read
        exact ⟨members, rfl, typed, (namesOfEntry_eq_ok_iff type "inputs" inputs).mp readInputs,
          (namesOfEntry_eq_ok_iff type "outputs" outputs).mp readOutputs, rfl⟩
      · cases read
    · cases read
  · rintro ⟨members, rfl, described⟩
    have inputs := (namesOfEntry_eq_ok_iff op.type "inputs" op.inputs).mpr described.inputs
    have outputs := (namesOfEntry_eq_ok_iff op.type "outputs" op.outputs).mpr described.outputs
    simp only [ofJson, described.type, inputs, outputs]
    change Except.ok _ = _
    rw [← described.fields]

theorem exists_namesUnder_iff (key : Text) :
    (∃ names, NamesUnder key members names) ↔ TextsUnder key members := by
  unfold NamesUnder TextsUnder
  cases Json.member? key members with
  | none => simp
  | some value => simp

theorem exists_ofJson_iff (entry : Json) : (∃ op, ofJson entry = .ok op) ↔ IsEntry entry := by
  constructor
  · rintro ⟨op, read⟩
    obtain ⟨members, rfl, described⟩ := (ofJson_eq_ok_iff entry op).mp read
    refine ⟨members, rfl, ⟨op.type, described.type⟩, ?_, ?_⟩
    · exact (exists_namesUnder_iff "inputs").mp ⟨op.inputs, described.inputs⟩
    · exact (exists_namesUnder_iff "outputs").mp ⟨op.outputs, described.outputs⟩
  · rintro ⟨members, rfl, ⟨type, typed⟩, texts⟩
    obtain ⟨inputs, hasInputs⟩ := (exists_namesUnder_iff "inputs").mpr texts.1
    obtain ⟨outputs, hasOutputs⟩ := (exists_namesUnder_iff "outputs").mpr texts.2
    refine ⟨⟨type, inputs, outputs, members.filter fun m => !reservedKeys.contains m.1⟩, ?_⟩
    exact (ofJson_eq_ok_iff _ _).mpr ⟨members, rfl, typed, hasInputs, hasOutputs, rfl⟩

end Operation
end TensorBundle

namespace TensorBundle.Operation

/-- An operation whose fields are those that an entry can give it: their names are distinct, and
none is the name of a member that is no field. -/
structure IsPlain (op : Operation) : Prop where
  distinct : Json.Distinct op.fields
  unreserved : ∀ key ∈ reservedKeys, key ∉ Json.names op.fields

/-- What is written for an entry with the given members. Its names are the reserved ones and then
all others in their order; each name has its value, and where the entry gives no list of tensors
there is an empty one. -/
structure Restates (members written : List (Text × Json)) : Prop where
  names : Json.names written =
    reservedKeys ++ (Json.names members).filter fun key => !reservedKeys.contains key
  values : ∀ key, Json.member? key written = (Json.member? key members).or
    (if key = "inputs" ∨ key = "outputs" then some (.array []) else none)

section Encoding
variable {members : List (Text × Json)} {op : Operation}

def heading (op : Operation) : List (Text × Json) :=
  [("type", .text op.type), ("inputs", .array (op.inputs.map .text)),
    ("outputs", .array (op.outputs.map .text))]

theorem names_heading (op : Operation) : Json.names op.heading = reservedKeys := rfl

theorem isPlain_of_ofJson (distinct : Json.Distinct members)
    (read : ofJson (.object members) = .ok op) : op.IsPlain := by
  obtain ⟨_, same, described⟩ := (ofJson_eq_ok_iff _ op).mp read
  cases same
  have names := Json.names_filter (fun key => !reservedKeys.contains key) members
  rw [← described.fields] at names
  constructor
  · rw [Json.Distinct, names]
    exact distinct.filter _
  · intro key reserved listed
    rw [names, List.mem_filter] at listed
    simp [reserved] at listed

theorem toJson_eq (plain : op.IsPlain) : op.toJson = .object (op.heading ++ op.fields) := by
  have distinct : Json.Distinct (op.heading ++ op.fields) := by
    rw [Json.Distinct, Json.names_append, names_heading]
    refine List.nodup_append.mpr ⟨by decide, plain.distinct, ?_⟩
    rintro key reserved _ listed rfl
    exact plain.unreserved key reserved listed
  rw [toJson, ← Json.foldl_bindMember _ _ distinct]
  rfl

theorem member_of_namesUnder {key : Text} {names : List Text}
    (under : NamesUnder key members names) :
    some (.array (names.map .text)) = (Json.member? key members).or (some (.array [])) := by
  rcases under with ⟨missing, rfl⟩ | present
  · rw [missing]
    rfl
  · rw [present]
    rfl

theorem restates_of_ofJson (read : ofJson (.object members) = .ok op) :
    Restates members (op.heading ++ op.fields) := by
  obtain ⟨_, same, described⟩ := (ofJson_eq_ok_iff _ op).mp read
  cases same
  constructor
  · rw [Json.names_append, names_heading, described.fields]
    rw [Json.names_filter fun key => !reservedKeys.contains key]
  · intro key
    rw [Json.member_append, described.fields,
      Json.member_filter fun key => !reservedKeys.contains key]
    -- The key is one of the three in front, or it is found among the fields as it was before.
    by_cases isType : key = "type"
    · subst isType
      rw [described.type]
      rfl
    by_cases isInputs : key = "inputs"
    · subst isInputs
      exact member_of_namesUnder described.inputs
    by_cases isOutputs : key = "outputs"
    · subst isOutputs
      exact member_of_namesUnder described.outputs
    have free : key ∉ reservedKeys := by simp [reservedKeys, isType, isInputs, isOutputs]
    have missing : Json.member? key op.heading = none := (Json.member_eq_none_iff key _).mpr free
    simp [missing, isInputs, isOutputs, free]

theorem describedBy_heading (plain : op.IsPlain) : DescribedBy (op.heading ++ op.fields) op where
  type := rfl
  inputs := Or.inr rfl
  outputs := Or.inr rfl
  fields := by
    have none_of_heading : op.heading.filter (fun m => !reservedKeys.contains m.1) = [] := rfl
    rw [List.filter_append, none_of_heading, List.nil_append, eq_comm, List.filter_eq_self]
    intro field listed
    have free : field.1 ∉ reservedKeys := fun reserved =>
      plain.unreserved field.1 reserved (List.mem_map_of_mem listed)
    simpa using free

end Encoding

/-- Reading and writing entries undo each other. An entry that was read is written with its own
members, and an operation with fields that an entry can give it is read from what is written for it;
the fields of all that was read are such. -/
theorem ofJson_toJson :
    (∀ members op, Json.Distinct members → ofJson (.object members) = .ok op →
      op.IsPlain ∧ ∃ written, op.toJson = .object written ∧ Restates members written) ∧
    ∀ op : Operation, op.IsPlain → ofJson op.toJson = .ok op := by
  constructor
  · intro members op distinct read
    have plain := isPlain_of_ofJson distinct read
    exact ⟨plain, _, toJson_eq plain, restates_of_ofJson read⟩
  · intro op plain
    rw [toJson_eq plain]
    exact (ofJson_eq_ok_iff _ op).mpr ⟨_, rfl, describedBy_heading plain⟩

theorem ofJson_toJson_type_last :
    let members : List (Text × Json) :=
      [("stride", .array [.int 2, .int 1]), ("inputs", .array [.text "x", .text "w"]),
        ("note", .object [("type", .null)]), ("type", .text "Conv")]
    let op : Operation := ⟨"Conv", ["x", "w"], [],
      [("stride", .array [.int 2, .int 1]), ("note", .object [("type", .null)])]⟩
    Json.Distinct members ∧ ofJson (.object members) = .ok op ∧
      (op.IsPlain ∧ ∃ written, op.toJson = .object written ∧ Restates members written) ∧
      ofJson op.toJson = .ok op := by
  intro members op
  have distinct : Json.Distinct members := by
    unfold Json.Distinct
    decide
  have read : ofJson (.object members) = .ok op := rfl
  have first := ofJson_toJson.1 members op distinct read
  exact ⟨distinct, read, first, ofJson_toJson.2 op first.1⟩

end TensorBundle.Operation

namespace TensorBundle

theorem DataType.ofManifest_eq_some_iff (word : Text) (type : DataType) :
    ofManifest? word = some type ↔
      (word = "single" ∧ type = .float32) ∨ (word = "double" ∧ type = .float64) := by
  have apart : ("double" : Text) ≠ "single" := by decide
  unfold ofManifest?
  by_cases isSingle : word = "single"
  · subst isSingle
    simp [apart.symm, eq_comm]
  · by_cases isDouble : word = "double"
    · subst isDouble
      simp [apart, eq_comm]
    · simp [isSingle, isDouble]

namespace Operation
variable (op : Operation) (key : Text)

theorem require_eq_ok_iff (value : Json) :
    op.require key none = .ok value ↔ op.get? key = some value := by
  unfold require
  cases op.get? key <;> simp

theorem getText_eq_ok_iff (text : Text) :
    op.getText key none = .ok text ↔ op.get? key = some (.text text) := by
  constructor
  · intro given
    obtain ⟨value, present, given⟩ := bind_eq_ok given
    rw [(op.require_eq_ok_iff key value).mp present]
    cases value <;> cases given
    rfl
  · intro present
    rw [getText, (op.require_eq_ok_iff key _).mpr present]
    rfl

theorem getDataType_eq_ok_iff (type : DataType) :
    op.getDataType key none = .ok type ↔
      ∃ word, op.get? key = some (.text word) ∧ DataType.ofManifest? word = some type := by
  constructor
  · intro given
    obtain ⟨word, present, given⟩ := bind_eq_ok given
    refine ⟨word, (op.getText_eq_ok_iff key word).mp present, ?_⟩
    split at given
    · rename_i found
      cases given
      exact found
    · cases given
  · rintro ⟨word, present, known⟩
    rw [getDataType, (op.getText_eq_ok_iff key word).mpr present]
    simp only [bind, Except.bind, known]
    rfl

theorem getDataType_default_iff (default : Text) (type : DataType) :
    op.getDataType key (some (.text default)) = .ok type ↔
      ∃ word, (op.get? key).getD (.text default) = .text word ∧
        DataType.ofManifest? word = some type := by
  cases present : op.get? key with
  | some document =>
      have same : op.getDataType key (some (.text default)) = op.getDataType key none := by
        simp only [getDataType, getText, require, present]
      rw [same, getDataType_eq_ok_iff, present]
      simp only [Option.some.injEq, Option.getD_some]
  | none =>
      have given : op.getText key (some (.text default)) = .ok default := by
        simp only [getText, require, present]
        rfl
      rw [getDataType, given, Option.getD_none]
      simp only [bind, Except.bind, Json.text.injEq, exists_eq_left']
      cases DataType.ofManifest? default <;> simp [pure, Except.pure]

theorem getInts_eq_ok_iff (ints : List Int) :
    op.getInts key none = .ok ints ↔
      ∃ document, op.get? key = some document ∧ document.GivesInts ints := by
  constructor
  · intro given
    obtain ⟨document, present, given⟩ := bind_eq_ok given
    refine ⟨document, (op.require_eq_ok_iff key document).mp present, ?_⟩
    cases document with
    | int n =>
        cases given
        exact Or.inr ⟨n, rfl, rfl⟩
    | array items =>
        dsimp only at given
        split at given
        · rename_i read
          cases given
          exact Or.inl (congrArg Json.array ((Json.ints_eq_some_iff items _).mp read))
        · cases given
    | null => cases given
    | bool b => cases given
    | real x => cases given
    | text t => cases given
    | object members => cases given
  · rintro ⟨document, present, rfl | ⟨n, rfl, rfl⟩⟩
    · rw [getInts, (op.require_eq_ok_iff key _).mpr present]
      simp only [bind, Except.bind, (Json.ints_eq_some_iff _ ints).mpr rfl]
      rfl
    · rw [getInts, (op.require_eq_ok_iff key _).mpr present]
      rfl

theorem getInt_eq_ok_iff (n : Int) :
    op.getInt key none = .ok n ↔ op.get? key = some (.int n) := by
  constructor
  · intro given
    obtain ⟨value, present, given⟩ := bind_eq_ok given
    rw [(op.require_eq_ok_iff key value).mp present]
    cases value <;> cases given
    rfl
  · intro present
    rw [getInt, (op.require_eq_ok_iff key _).mpr present]
    rfl

def FieldGives (default : Int) (ints : List Int) : Prop :=
  ((op.get? key).getD (.int default)).GivesInts ints

theorem getInts_default_iff (default : Int) (ints : List Int) :
    op.getInts key (some (.array [.int default])) = .ok ints ↔
      op.FieldGives key default ints := by
  unfold FieldGives
  cases present : op.get? key with
  | some document =>
      have same : op.getInts key (some (.array [.int default])) = op.getInts key none := by
        simp only [getInts, require, present]
      rw [same, getInts_eq_ok_iff, present, Option.getD_some]
      simp only [Option.some.injEq, exists_eq_left']
  | none =>
      have given : op.getInts key (some (.array [.int default])) = .ok [default] := by
        simp only [getInts, require, present]
        rfl
      rw [given, Option.getD_none]
      constructor
      · rintro ⟨⟩
        exact Or.inr ⟨default, rfl, rfl⟩
      · rintro (listed | ⟨n, same, rfl⟩)
        · cases listed
        · cases same
          rfl

theorem getShape_eq_ok_iff (shape : Shape) :
    op.getShape key = .ok shape ↔
      ∃ document, op.get? key = some document ∧ document.GivesInts (shape.map Int.ofNat) := by
  rw [← op.getInts_eq_ok_iff key]
  constructor
  · intro given
    obtain ⟨dimensions, present, given⟩ := bind_eq_ok given
    split at given
    · rename_i made
      cases given
      rw [present, (Shape.ofInts_eq_some_iff dimensions _).mp made]
    · cases given
  · intro present
    rw [getShape, present]
    simp only [bind, Except.bind, (Shape.ofInts_eq_some_iff _ shape).mpr rfl]
    rfl

section Errors
variable {op : Operation} {key : Text} {α β : Type}

def HasUnwritable (op : Operation) (key : Text) : Prop :=
  ∃ value, op.get? key = some value ∧ value.isWritable = false

/-- An error in the configuration that names a field and the type of the operation. It can be worded
unless the value of the field cannot. -/
def IsFieldError (op : Operation) (key : Text) (e : BundleError) : Prop :=
  (∃ problem value, e = .configuration problem (some key) value (some op.type)) ∧
    (e.isWritable = false ↔ op.HasUnwritable key)

def FailsByField (op : Operation) (key : Text) (result : Except BundleError α) : Prop :=
  ∀ e, result = .error e → op.IsFieldError key e

theorem isUnwritable_iff {result : Except BundleError α} (fails : op.FailsByField key result) :
    IsUnwritable result ↔ (∀ a, result ≠ .ok a) ∧ op.HasUnwritable key := by
  cases result with
  | ok a => simp [IsUnwritable]
  | error e => simp [IsUnwritable, (fails e rfl).2]

theorem isFieldError_badField {value : Json} {problem : ConfigurationProblem}
    (present : op.get? key = some value) (plain : problem.isWritable = true) :
    op.IsFieldError key (op.badField key value problem) := by
  refine ⟨⟨_, _, rfl⟩, ?_⟩
  simp [HasUnwritable, present, badField, BundleError.isWritable, plain]

theorem failsByField_bind {r : Except BundleError α} {f : α → Except BundleError β}
    (first : op.FailsByField key r)
    (next : ∀ a, r = .ok a → op.FailsByField key (f a)) : op.FailsByField key (r >>= f) := by
  intro e failed
  rcases bind_eq_error failed with failed | ⟨a, given, failed⟩
  · exact first e failed
  · exact next a given e failed

theorem failsByField_require (default : Option Json) :
    op.FailsByField key (op.require key default) := by
  intro e failed
  unfold require at failed
  split at failed
  · cases failed
  · cases failed
  · rename_i missing
    cases failed
    refine ⟨⟨_, _, rfl⟩, ?_⟩
    simp [HasUnwritable, missing, BundleError.isWritable, ConfigurationProblem.isWritable]

theorem require_cases {default : Option Json} {value : Json}
    (required : op.require key default = .ok value) :
    op.get? key = some value ∨ default = some value := by
  unfold require at required
  split at required
  · rename_i present
    cases required
    exact Or.inl present
  · cases required
    exact Or.inr rfl
  · cases required

/-! A default that the accessor takes leaves no error but those of the field. -/

theorem failsByField_getText {default : Option Json}
    (fits : ∀ value, default = some value → ∃ t, value = .text t) :
    op.FailsByField key (op.getText key default) := by
  refine failsByField_bind (failsByField_require default) fun value required e failed => ?_
  rcases require_cases required with present | standard
  · cases value <;> cases failed <;> exact isFieldError_badField present rfl
  · obtain ⟨t, rfl⟩ := fits value standard
    cases failed

theorem failsByField_getInt : op.FailsByField key (op.getInt key none) := by
  refine failsByField_bind (failsByField_require none) fun value required e failed => ?_
  have present := (op.require_eq_ok_iff key value).mp required
  cases value <;> cases failed <;> exact isFieldError_badField present rfl

theorem failsByField_getInts {default : Option Json}
    (fits : ∀ value, default = some value → ∃ ints, value.GivesInts ints) :
    op.FailsByField key (op.getInts key default) := by
  refine failsByField_bind (failsByField_require default) fun value required e failed => ?_
  dsimp only at failed
  split at failed
  · cases failed
  · rename_i unread
    cases failed
    rcases require_cases required with present | standard
    · exact isFieldError_badField present rfl
    · obtain ⟨ints, rfl | ⟨n, rfl, _⟩⟩ := fits value standard
      · dsimp only at unread
        rw [(Json.ints_eq_some_iff _ ints).mpr rfl] at unread
        cases unread
      · cases unread

theorem isWritable_ints (ints : List Int) :
    (Json.array (ints.map .int)).isWritable = true ↔ ∀ n ∈ ints, Text.isWritable n = true := by
  rw [Json.isWritable, Json.areWritable_iff, List.forall_mem_map]
  exact Iff.rfl

theorem isWritable_givesInts {document : Json} {ints : List Int} (gives : document.GivesInts ints) :
    document.isWritable = (Json.array (ints.map .int)).isWritable := by
  rcases gives with rfl | ⟨n, rfl, rfl⟩
  · rfl
  · simp [Json.isWritable, Json.areWritable]

theorem isWritable_of_getInts {default : Int} (small : default.natAbs < 10) {ints : List Int}
    (given : op.getInts key (some (.array [.int default])) = .ok ints)
    (worded : ¬ op.HasUnwritable key) : ∀ n ∈ ints, Text.isWritable n = true := by
  rw [← isWritable_ints]
  have gives := (op.getInts_default_iff key default ints).mp given
  unfold FieldGives at gives
  cases present : op.get? key with
  | some value =>
      rw [present] at gives
      rw [← isWritable_givesInts gives]
      by_contra bad
      exact worded ⟨value, present, by simpa using bad⟩
  | none =>
      rw [present] at gives
      rw [← isWritable_givesInts gives]
      exact Text.isWritable_of_lt small

theorem failsByField_getShape : op.FailsByField key (op.getShape key) := by
  refine failsByField_bind (failsByField_getInts nofun) fun dimensions given e failed => ?_
  obtain ⟨document, present, gives⟩ := (op.getInts_eq_ok_iff key dimensions).mp given
  split at failed
  · cases failed
  · cases failed
    refine ⟨⟨_, _, rfl⟩, ?_⟩
    simp only [HasUnwritable, present, Option.some.injEq, exists_eq_left',
      isWritable_givesInts gives]
    exact Iff.rfl

theorem failsByField_getDataType {default : Option Json}
    (fits : ∀ value, default = some value → value = .text "single") :
    op.FailsByField key (op.getDataType key default) := by
  refine failsByField_bind (failsByField_getText fun value standard => ⟨_, fits value standard⟩)
    fun name given e failed => ?_
  obtain ⟨value, required, given⟩ := bind_eq_ok given
  cases value <;> cases given
  split at failed
  · cases failed
  · rename_i unknown
    cases failed
    rcases require_cases required with present | standard
    · exact isFieldError_badField present rfl
    · cases fits _ standard
      cases unknown

end Errors

def IsWritable (op : Operation) : Prop := ∀ key, ¬ op.HasUnwritable key

theorem isWritable_of_ofJson {entry : Json} {op : Operation} (writable : entry.isWritable = true)
    (read : ofJson entry = .ok op) : op.IsWritable := by
  obtain ⟨members, rfl, described⟩ := (ofJson_eq_ok_iff entry op).mp read
  rintro key ⟨value, present, unwritable⟩
  have listed : (key, value) ∈ op.fields := Json.mem_of_member present
  rw [described.fields] at listed
  rw [(Json.areWritableMembers_iff members).mp writable _ (List.mem_of_mem_filter listed)]
    at unwritable
  cases unwritable

end Operation

end TensorBundle
