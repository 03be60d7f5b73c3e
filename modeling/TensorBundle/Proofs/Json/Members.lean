import Mathlib
import TensorBundle.Json.Literal
import TensorBundle.Tensor.Basic
/-!
Members of objects and items of lists. Where no name is bound twice, binding the members of a list
one after another puts them behind those that are there, in their order.
-/
namespace TensorBundle.Json

def names (members : List (Text × Json)) : List Text := members.map Prod.fst

/-- No name is bound twice, as in every object that was read. -/
def Distinct (members : List (Text × Json)) : Prop := (names members).Nodup

variable {members : List (Text × Json)}

theorem names_append (before after : List (Text × Json)) :
    names (before ++ after) = names before ++ names after := List.map_append

theorem names_filter (keep : Text → Bool) (members : List (Text × Json)) :
    names (members.filter fun member => keep member.1) = (names members).filter keep :=
  List.filter_map.symm

theorem member_append (key : Text) (before after : List (Text × Json)) :
    member? key (before ++ after) = (member? key before).or (member? key after) := by
  induction before with
  | nil => rfl
  | cons member rest ih =>
      by_cases same : member.1 = key
      · simp [member?, same]
      · simp [member?, same, ih]

theorem member_eq_none_iff (key : Text) (members : List (Text × Json)) :
    member? key members = none ↔ key ∉ names members := by
  induction members with
  | nil => simp [member?, names]
  | cons member rest ih =>
      by_cases same : member.1 = key
      · simp [member?, names, same]
      · simp only [names, List.map_cons, List.mem_cons, not_or] at ih ⊢
        simp [member?, same, ih, Ne.symm same]

theorem member_filter (keep : Text → Bool) (key : Text) (members : List (Text × Json)) :
    member? key (members.filter fun member => keep member.1) =
      if keep key then member? key members else none := by
  induction members with
  | nil => simp [member?]
  | cons member rest ih =>
      by_cases same : member.1 = key
      · by_cases kept : keep key = true
        · simp [member?, same, kept]
        · simpa [same, kept] using ih
      · by_cases kept : keep member.1 = true
        · simp [member?, same, kept, ih]
        · simp [member?, same, kept, ih]

theorem mem_of_member {key : Text} {value : Json} (found : member? key members = some value) :
    (key, value) ∈ members := by
  induction members with
  | nil => cases found
  | cons member rest ih =>
      by_cases same : member.1 = key
      · simp only [member?, same, if_true, Option.some.injEq] at found
        rw [← found, ← same]
        exact List.mem_cons_self
      · simp only [member?, same, if_false] at found
        exact List.mem_cons_of_mem _ (ih found)

theorem areWritable_iff (items : List Json) :
    areWritable items = true ↔ ∀ item ∈ items, isWritable item = true := by
  induction items with
  | nil => simp [areWritable]
  | cons item rest ih => simp [areWritable, ih]

theorem areWritableMembers_iff (members : List (Text × Json)) :
    areWritableMembers members = true ↔ ∀ member ∈ members, isWritable member.2 = true := by
  induction members with
  | nil => simp [areWritableMembers]
  | cons member rest ih => simp [areWritableMembers, ih]

section Bind
variable (name : Text) (value : Json)

theorem names_bindMember (members : List (Text × Json)) :
    names (bindMember name value members) =
      if name ∈ names members then names members else names members ++ [name] := by
  induction members with
  | nil => rfl
  | cons member rest ih =>
      by_cases same : member.1 = name
      · simp [bindMember, names, same]
      · simp only [names] at ih
        by_cases later : name ∈ rest.map Prod.fst
        · simp [bindMember, names, same, ih, later]
        · simp [bindMember, names, same, ih, later, Ne.symm same]

theorem distinct_bindMember (distinct : Distinct members) :
    Distinct (bindMember name value members) := by
  unfold Distinct
  rw [names_bindMember]
  by_cases bound : name ∈ names members
  · rw [if_pos bound]
    exact distinct
  · rw [if_neg bound]
    exact List.nodup_append.mpr ⟨distinct, List.nodup_singleton name, by
      rintro key listed _ (_ | ⟨_, ⟨⟩⟩) rfl
      exact bound listed⟩

theorem mem_bindMember {name : Text} {value : Json} {member : Text × Json}
    (listed : member ∈ bindMember name value members) :
    member ∈ members ∨ member = (name, value) := by
  induction members with
  | nil => exact Or.inr (List.mem_singleton.mp listed)
  | cons first rest ih =>
      by_cases same : first.1 = name
      · simp only [bindMember, same, if_true, List.mem_cons] at listed
        rcases listed with new | old
        · exact Or.inr new
        · exact Or.inl (List.mem_cons_of_mem first old)
      · simp only [bindMember, same, if_false, List.mem_cons] at listed
        rcases listed with head | tail
        · exact Or.inl (List.mem_cons.mpr (Or.inl head))
        · exact (ih tail).imp (List.mem_cons_of_mem first) id

theorem bindMember_of_new (new : name ∉ names members) :
    bindMember name value members = members ++ [(name, value)] := by
  induction members with
  | nil => rfl
  | cons member rest ih =>
      simp only [names, List.map_cons, List.mem_cons, not_or] at new ih
      simp [bindMember, Ne.symm new.1, ih new.2]

end Bind

theorem foldl_bindMember (before members : List (Text × Json))
    (distinct : Distinct (before ++ members)) :
    members.foldl (fun bound (key, value) => bindMember key value bound) before =
      before ++ members := by
  induction members generalizing before with
  | nil => exact (List.append_nil before).symm
  | cons member rest ih =>
      have new : member.1 ∉ names before := by
        intro listed
        rw [Distinct, names_append] at distinct
        exact (List.nodup_append.mp distinct).2.2 _ listed _ (List.mem_cons_self ..) rfl
      have step : bindMember member.1 member.2 before = before ++ [member] :=
        bindMember_of_new member.1 member.2 new
      rw [List.append_cons] at distinct
      rw [List.append_cons, ← ih _ distinct, ← step]
      rfl

end TensorBundle.Json

namespace TensorBundle

/-- A list is read item by item exactly when it is written from what is read, item by item. -/
theorem mapM_eq_some_iff {α β : Type} {read : α → Option β} {write : β → α}
    (inverse : ∀ a b, read a = some b ↔ a = write b) (items : List α) (values : List β) :
    items.mapM read = some values ↔ items = values.map write := by
  induction items generalizing values with
  | nil => cases values <;> simp
  | cons item rest ih =>
      rw [List.mapM_cons]
      constructor
      · intro isRead
        obtain ⟨value, first, isRead⟩ := Option.bind_eq_some_iff.mp isRead
        obtain ⟨others, tail, same⟩ := Option.bind_eq_some_iff.mp isRead
        cases same
        rw [(inverse item value).mp first, (ih others).mp tail, List.map_cons]
      · intro same
        cases values with
        | nil => cases same
        | cons value others =>
            cases same
            rw [(inverse _ value).mpr rfl, (ih others).mpr rfl]
            rfl

namespace Json

theorem text_eq_some_iff (item : Json) (name : Text) :
    text? item = some name ↔ item = .text name := by
  cases item <;> simp [text?]

theorem texts_eq_some_iff (items : List Json) (names : List Text) :
    texts? items = some names ↔ items = names.map .text :=
  mapM_eq_some_iff text_eq_some_iff items names

theorem int_eq_some_iff (item : Json) (n : Int) : int? item = some n ↔ item = .int n := by
  cases item <;> simp [int?]

theorem ints_eq_some_iff (items : List Json) (ints : List Int) :
    ints? items = some ints ↔ items = ints.map .int :=
  mapM_eq_some_iff int_eq_some_iff items ints

/-- A document gives integers: it is the list of them or, where there is one only, that one. -/
def GivesInts (document : Json) (ints : List Int) : Prop :=
  document = .array (ints.map .int) ∨ ∃ n, document = .int n ∧ ints = [n]

end Json

namespace Shape

theorem ofInts_eq_some_iff (dimensions : List Int) (shape : Shape) :
    ofInts? dimensions = some shape ↔ dimensions = shape.map Int.ofNat := by
  apply mapM_eq_some_iff
  intro d size
  by_cases positive : 0 ≤ d
  · simp only [positive, if_true, Option.some.injEq, Int.ofNat_eq_natCast]
    omega
  · simp only [positive, if_false, Int.ofNat_eq_natCast]
    constructor
    · intro impossible
      cases impossible
    · intro same
      omega

theorem ofInts_eq_none_iff (dimensions : List Int) :
    ofInts? dimensions = none ↔ ∃ d ∈ dimensions, d < 0 := by
  constructor
  · intro refused
    by_contra none
    have positive : ∀ d ∈ dimensions, 0 ≤ d := by
      intro d member
      by_contra negative
      exact none ⟨d, member, not_le.mp negative⟩
    have sizes : dimensions = (dimensions.map Int.toNat).map Int.ofNat := by
      rw [List.map_map]
      conv_lhs => rw [← List.map_id dimensions]
      apply List.map_congr_left
      intro d member
      exact (Int.toNat_of_nonneg (positive d member)).symm
    rw [(ofInts_eq_some_iff dimensions _).mpr sizes] at refused
    cases refused
  · rintro ⟨d, member, negative⟩
    apply Option.eq_none_iff_forall_ne_some.mpr
    intro shape made
    rw [(ofInts_eq_some_iff dimensions shape).mp made] at member
    obtain ⟨size, _, rfl⟩ := List.mem_map.mp member
    exact absurd (Int.natCast_nonneg size) (not_le.mpr negative)

theorem ofJson_ints (dimensions : List Int) :
    ofJson (.array (dimensions.map .int)) = .ok dimensions := by
  change (dimensions.map Json.int).mapM dimension = .ok dimensions
  induction dimensions with
  | nil => rfl
  | cons d rest ih =>
      rw [List.map_cons, List.mapM_cons, ih]
      rfl

end Shape
end TensorBundle
