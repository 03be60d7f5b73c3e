import Mathlib
import TensorBundle.Proofs.Action
import TensorBundle.Proofs.Workspace.Entries
/-!
Getting a tensor of a type and a shape, and what all that stores its result under one name does to
a workspace: its effect on that name, the edits that it is made of, and what it leaves of the
entries of all other names. The last needs no more of a workspace than that no two names share a
handle.
-/
namespace TensorBundle.Workspace

def Holds (ws : Workspace) (name : Text) (type : DataType) (shape : Shape) (id : Nat) : Prop :=
  ws.number? name = some id ∧ ∃ t, ws.handle id = .holding t ∧ t.type = type ∧ t.shape = shape

theorem filter_isLike_eq_some_iff (ws : Workspace) (name : Text) (type : DataType) (shape : Shape)
    (id : Nat) : (ws.number? name).filter (ws.isLike type shape) = some id ↔
      ws.Holds name type shape id := by
  rw [Option.filter_eq_some_iff]
  exact and_congr_right fun _ => Handle.isLike_iff (ws.handle id) type shape

/-- What getting a tensor comes to, and the workspace that it leaves. -/
inductive Obtained (name : Text) (type : DataType) (shape : Shape) (ws : Workspace) :
    Except Failure Nat → Workspace → Prop where
  | found (id : Nat) (holds : ws.Holds name type shape id) : Obtained name type shape ws (.ok id) ws
  | made (missing : ∀ id, ¬ ws.Holds name type shape id)
      (room : Tensor.canAllocate ws.available.tensor type shape = true) :
      Obtained name type shape ws (.ok ws.handles.length)
        ((ws.remove name).insertNew name (.holding (.zeros type shape)))
  | refused (missing : ∀ id, ¬ ws.Holds name type shape id)
      (full : Tensor.canAllocate ws.available.tensor type shape = false) :
      Obtained name type shape ws (.error (allocationFailure name type shape)) (ws.remove name)

theorem result_create (name : Text) (type : DataType) (shape : Shape) (ws : Workspace) :
    (create name type shape ws).result =
      if Tensor.canAllocate ws.available.tensor type shape then .ok ws.handles.length
      else .error (allocationFailure name type shape) := by
  by_cases room : Tensor.canAllocate ws.available.tensor type shape = true <;>
    simp [create, Action.bind_run, room]

theorem workspace_create (name : Text) (type : DataType) (shape : Shape) (ws : Workspace) :
    (create name type shape ws).workspace =
      if Tensor.canAllocate ws.available.tensor type shape then
        (ws.remove name).insertNew name (.holding (.zeros type shape))
      else ws.remove name := by
  by_cases room : Tensor.canAllocate ws.available.tensor type shape = true <;>
    simp [create, Action.bind_run, room]

theorem obtain_of_holds (name : Text) (type : DataType) (shape : Shape) (ws : Workspace) (id : Nat)
    (holds : ws.Holds name type shape id) :
    (obtain name type shape ws).result = .ok id ∧ (obtain name type shape ws).workspace = ws := by
  have matched := (filter_isLike_eq_some_iff ws name type shape id).mpr holds
  simp [obtain, Action.bind_run, matched]

theorem obtain_of_missing (name : Text) (type : DataType) (shape : Shape) (ws : Workspace)
    (missing : ∀ id, ¬ ws.Holds name type shape id) :
    (obtain name type shape ws).result = (create name type shape ws).result ∧
      (obtain name type shape ws).workspace = (create name type shape ws).workspace := by
  have unmatched : (ws.number? name).filter (ws.isLike type shape) = none := by
    apply Option.eq_none_iff_forall_ne_some.mpr
    intro id matched
    exact missing id ((filter_isLike_eq_some_iff ws name type shape id).mp matched)
  simp [obtain, Action.bind_run, unmatched]

theorem obtain_obtained (name : Text) (type : DataType) (shape : Shape) (ws : Workspace) :
    Obtained name type shape ws (obtain name type shape ws).result
      (obtain name type shape ws).workspace := by
  by_cases present : ∃ id, ws.Holds name type shape id
  · obtain ⟨id, holds⟩ := present
    obtain ⟨result, workspace⟩ := obtain_of_holds name type shape ws id holds
    rw [result, workspace]
    exact .found id holds
  · have missing := not_exists.mp present
    obtain ⟨result, workspace⟩ := obtain_of_missing name type shape ws missing
    rw [result, workspace, result_create, workspace_create]
    cases room : Tensor.canAllocate ws.available.tensor type shape with
    | true => exact .made missing room
    | false => exact .refused missing room

section Failure
variable (name : Text) (type : DataType) {shape : Shape}

theorem allocationFailure_of_written (written : ∀ d ∈ shape, Text.isWritable d = true) :
    allocationFailure name type shape =
      match BundleError.megabytes? (Tensor.byteCount type shape) with
      | some megabytes => .error (.memory (.tensor name shape) (some megabytes) (some name))
      | none => .fault .quotientBeyondFloat := by
  have writable : (MemoryProblem.tensor name shape).isWritable = true :=
    List.all_eq_true.mpr written
  simp only [allocationFailure, writable, if_true, BundleError.outOfMemory]
  cases BundleError.megabytes? (Tensor.byteCount type shape) <;> rfl

theorem allocationFailure_of_unwritten (unwritten : ∃ d ∈ shape, Text.isWritable d = false) :
    allocationFailure name type shape = .fault .unwritableInteger := by
  have unwritable : (MemoryProblem.tensor name shape).isWritable = false := by
    simpa [MemoryProblem.isWritable] using unwritten
  simp only [allocationFailure, unwritable, Bool.false_eq_true, if_false]

end Failure

theorem allocationFailure_eq_fault_iff (name : Text) (type : DataType) (shape : Shape)
    (fault : Fault) : allocationFailure name type shape = .fault fault ↔
      (fault = .unwritableInteger ∧ ∃ d ∈ shape, Text.isWritable d = false) ∨
      (fault = .quotientBeyondFloat ∧ (∀ d ∈ shape, Text.isWritable d = true) ∧
        BundleError.megabytes? (Tensor.byteCount type shape) = none) := by
  by_cases written : ∀ d ∈ shape, Text.isWritable d = true
  · have none : ¬ ∃ d ∈ shape, Text.isWritable d = false := by
      rintro ⟨d, listed, bad⟩
      rw [written d listed] at bad
      cases bad
    rw [allocationFailure_of_written name type written]
    cases BundleError.megabytes? (Tensor.byteCount type shape) with
    | some megabytes => simp [none]
    | none =>
        constructor
        · rintro ⟨⟩
          exact Or.inr ⟨rfl, written, rfl⟩
        · rintro (⟨_, bad⟩ | ⟨rfl, _⟩)
          · exact absurd bad none
          · rfl
  · have some : ∃ d ∈ shape, Text.isWritable d = false := by simpa using written
    rw [allocationFailure_of_unwritten name type some]
    constructor
    · rintro ⟨⟩
      exact Or.inl ⟨rfl, some⟩
    · rintro (⟨rfl, _⟩ | ⟨_, all, _⟩)
      · rfl
      · exact absurd all written

/-- There is no memory for the tensor of a name, and the error cannot say so: its shape has a
dimension of too many digits or, where it has none, its bytes are too many to be counted out. -/
structure Unreportable (ws : Workspace) (name : Text) (type : DataType) (shape : Shape)
    (fault : Fault) : Prop where
  missing : ∀ id, ¬ ws.Holds name type shape id
  full : Tensor.canAllocate ws.available.tensor type shape = false
  unsaid : (fault = .unwritableInteger ∧ ∃ d ∈ shape, Text.isWritable d = false) ∨
    (fault = .quotientBeyondFloat ∧ (∀ d ∈ shape, Text.isWritable d = true) ∧
      BundleError.megabytes? (Tensor.byteCount type shape) = none)

theorem obtained_fault_iff {name : Text} {type : DataType} {shape : Shape}
    {before after : Workspace} {result : Except Failure Nat}
    (obtained : Obtained name type shape before result after) (fault : Fault) :
    result = .error (.fault fault) ↔ Unreportable before name type shape fault := by
  cases obtained with
  | found id holds =>
      have absent : ¬ Unreportable before name type shape fault := fun none => none.missing id holds
      simp [absent]
  | made missing room =>
      have absent : ¬ Unreportable before name type shape fault := fun none => by
        rw [none.full] at room
        cases room
      simp [absent]
  | refused missing full =>
      rw [Except.error.injEq, allocationFailure_eq_fault_iff]
      exact ⟨fun unsaid => ⟨missing, full, unsaid⟩, fun none => none.unsaid⟩

theorem obtained_ok_iff {name : Text} {type : DataType} {shape : Shape} {before after : Workspace}
    {result : Except Failure Nat} (obtained : Obtained name type shape before result after) :
    (∃ id, result = .ok id) ↔ (∃ id, before.Holds name type shape id) ∨
      Tensor.canAllocate before.available.tensor type shape = true := by
  cases obtained with
  | found id holds => exact ⟨fun _ => Or.inl ⟨id, holds⟩, fun _ => ⟨id, rfl⟩⟩
  | made missing room => exact ⟨fun _ => Or.inr room, fun _ => ⟨_, rfl⟩⟩
  | refused missing full =>
      constructor
      · rintro ⟨id, impossible⟩
        cases impossible
      · rintro (⟨id, holds⟩ | room)
        · exact absurd holds (missing id)
        · rw [full] at room
          cases room

inductive Effect (name : Text) (ws : Workspace) : Workspace → Prop where
  | untouched : Effect name ws ws
  | rewritten (id : Nat) (old new : Tensor) (stored : ws.number? name = some id)
      (held : ws.handle id = .holding old) (complete : old.IsSound → new.IsSound) :
      Effect name ws (ws.putHandle id (.holding new))
  | replaced (new : Tensor) (complete : new.IsSound) :
      Effect name ws ((ws.remove name).insertNew name (.holding new))
  | removed : Effect name ws (ws.remove name)
  -- A new handle that does not stay: it was filled in part and taken back.
  | withdrawn (new : Tensor) (complete : new.IsSound) :
      Effect name ws (((ws.remove name).insertNew name (.holding new)).remove name)

theorem effect_sound {name : Text} {before after : Workspace} (effect : Effect name before after)
    (sound : Sound before) : Sound after := by
  have replaced : ∀ new : Tensor, new.IsSound →
      Sound ((before.remove name).insertNew name (.holding new)) := fun new complete =>
    sound_insertNew name new (sound_remove name sound) (number_remove_self before name) complete
  cases effect with
  | untouched => exact sound
  | rewritten id old new _ held complete => exact sound_putHandle id old new sound held complete
  | replaced new complete => exact replaced new complete
  | removed => exact sound_remove name sound
  | withdrawn new complete => exact sound_remove name (replaced new complete)

theorem effect_evolves {name : Text} {before after : Workspace}
    (effect : Effect name before after) : Evolves before after := by
  have replaced : ∀ h : Handle, Evolves before ((before.remove name).insertNew name h) := fun h =>
    evolves_trans (evolves_remove name) (evolves_insertNew name (number_remove_self before name) h)
  cases effect with
  | untouched => exact evolves_refl before
  | rewritten id old new _ held _ => exact evolves_putHandle id old new held
  | replaced new _ => exact replaced (.holding new)
  | removed => exact evolves_remove name
  | withdrawn new _ => exact evolves_trans (replaced (.holding new)) (evolves_remove name)

theorem effect_keeps {name : Text} {before after : Workspace} (effect : Effect name before after) :
    Keeps before after :=
  ⟨effect_sound effect, effect_evolves effect⟩

theorem zeros_sound (type : DataType) (shape : Shape) : (Tensor.zeros type shape).IsSound := by
  simp [Tensor.IsSound, Tensor.zeros]

theorem obtained_effect {name : Text} {type : DataType} {shape : Shape} {before after : Workspace}
    {result : Except Failure Nat} (obtained : Obtained name type shape before result after) :
    Effect name before after := by
  cases obtained with
  | found => exact .untouched
  | made => exact .replaced _ (zeros_sound type shape)
  | refused => exact .removed

theorem obtained_holds {name : Text} {type : DataType} {shape : Shape} {before after : Workspace}
    {id : Nat} (obtained : Obtained name type shape before (.ok id) after) :
    after.Holds name type shape id := by
  cases obtained with
  | found _ holds => exact holds
  | made _ _ =>
      have stored := number_insertNew_self (before.remove name) name (.holding (.zeros type shape))
        (number_remove_self before name)
      have held := handle_insertNew_self (before.remove name) name (.holding (.zeros type shape))
      rw [length_remove] at stored held
      exact ⟨stored, _, held, rfl, rfl⟩

theorem obtained_put_effect {name : Text} {type : DataType} {shape : Shape}
    {before after : Workspace} {id : Nat}
    (obtained : Obtained name type shape before (.ok id) after) (new : Tensor)
    (complete : ∀ old, after.handle id = .holding old → old.IsSound → new.IsSound) :
    Effect name before (after.putHandle id (.holding new)) := by
  cases obtained with
  | found _ holds =>
      obtain ⟨stored, old, held, _, _⟩ := holds
      exact .rewritten id old new stored held (complete old held)
  | made _ _ =>
      have held := handle_insertNew_self (before.remove name) name (.holding (.zeros type shape))
      have put := putHandle_insertNew (before.remove name) name (.holding (.zeros type shape))
        (.holding new)
      rw [length_remove] at held put
      rw [put]
      exact .replaced new (complete _ held (zeros_sound type shape))

theorem obtained_put_remove_effect {name : Text} {type : DataType} {shape : Shape}
    {before after : Workspace} {id : Nat}
    (obtained : Obtained name type shape before (.ok id) after) (new : Tensor)
    (complete : ∀ old, after.handle id = .holding old → old.IsSound → new.IsSound) :
    Effect name before ((after.putHandle id (.holding new)).remove name) := by
  cases obtained with
  | found _ holds =>
      have stored := holds.1
      -- Whatever was put into the handle is released with it.
      have same : (before.putHandle id (.holding new)).remove name = before.remove name := by
        rw [remove_of_stored (before.putHandle id (.holding new)) name id stored,
          remove_of_stored before name id stored]
        simp [release, putHandle_putHandle]
      rw [same]
      exact .removed
  | made _ _ =>
      have held := handle_insertNew_self (before.remove name) name (.holding (.zeros type shape))
      have put := putHandle_insertNew (before.remove name) name (.holding (.zeros type shape))
        (.holding new)
      rw [length_remove] at held put
      rw [put]
      exact .withdrawn new (complete _ held (zeros_sound type shape))

/-- One change of a workspace. New handles hold tensors, and no tensor becomes incomplete. Handles
may be released under the names that they are stored under. -/
inductive Edit (ws : Workspace) : Workspace → Prop where
  | placed (baseName : Text) (memory : List Memory) : Edit ws { ws with baseName, memory }
  | rewritten (id : Nat) (old new : Tensor) (held : ws.handle id = .holding old)
      (complete : old.IsSound → new.IsSound) : Edit ws (ws.putHandle id (.holding new))
  | inserted (name : Text) (new : Tensor) (free : ws.number? name = none)
      (complete : new.IsSound) : Edit ws (ws.insertNew name (.holding new))
  | removed (name : Text) : Edit ws (ws.remove name)
  | released (id : Nat) : Edit ws (ws.release id)

def Edits : Workspace → Workspace → Prop := Relation.ReflTransGen Edit

theorem edits_refl (ws : Workspace) : Edits ws ws := Relation.ReflTransGen.refl

theorem edits_trans (before between after : Workspace) (first : Edits before between)
    (second : Edits between after) : Edits before after := Relation.ReflTransGen.trans first second

theorem edits_of_edit {before after : Workspace} (edit : Edit before after) : Edits before after :=
  Relation.ReflTransGen.single edit

/-- What every edit keeps is kept by any number of them. -/
theorem kept_of_edits {kind : Workspace → Prop} {before after : Workspace}
    (kept : ∀ one next, Edit one next → kind one → kind next) (edits : Edits before after)
    (holds : kind before) : kind after := by
  induction edits with
  | refl => exact holds
  | tail _ edit ih => exact kept _ _ edit ih

theorem effect_edits {name : Text} {before after : Workspace} (effect : Effect name before after) :
    Edits before after := by
  have removed : ∀ ws : Workspace, Edits ws (ws.remove name) := fun ws =>
    edits_of_edit (.removed name)
  have replaced : ∀ new : Tensor, new.IsSound →
      Edits before ((before.remove name).insertNew name (.holding new)) := fun new complete =>
    (removed before).tail (.inserted name new (number_remove_self before name) complete)
  cases effect with
  | untouched => exact edits_refl before
  | rewritten id old new _ held complete =>
    exact edits_of_edit (.rewritten id old new held complete)
  | replaced new complete => exact replaced new complete
  | removed => exact removed before
  | withdrawn new complete => exact (replaced new complete).tail (.removed name)

theorem foldl_remove_edits (names : List Text) (ws : Workspace) :
    Edits ws (names.foldl remove ws) := by
  induction names generalizing ws with
  | nil => exact edits_refl ws
  | cons name rest ih => exact (edits_of_edit (.removed name)).trans (ih (ws.remove name))

theorem edit_orderly (before after : Workspace) (edit : Edit before after)
    (orderly : before.Orderly) : after.Orderly := by
  cases edit with
  | placed baseName memory => exact ⟨orderly.numbers, orderly.known, orderly.complete⟩
  | rewritten id old new held complete =>
      apply orderly_putHandle id _ orderly
      rintro t ⟨⟩
      exact complete (orderly.complete id old held)
  | inserted name new free complete =>
      apply orderly_insertNew name _ orderly free
      rintro t ⟨⟩
      exact complete
  | removed name => exact orderly_remove name orderly
  | released id => exact orderly_putHandle id .empty orderly nofun

/-- Every name has one entry, and a handle that holds no tensor states nothing. -/
structure Tidy (ws : Workspace) : Prop where
  names : (ws.entries.map Prod.fst).Nodup
  plain : ∀ id, (ws.handle id).isEmpty = true → ws.handle id = .empty

theorem tidy_of_no_entries (ws : Workspace) (entries : ws.entries = [])
    (handles : ws.handles = []) : Tidy ws where
  names := by simp [entries]
  plain id _ := by simp [handle, handles]

section Tidy
variable {ws : Workspace}

theorem plain_putHandle (id : Nat) {h : Handle} (tidy : ws.Tidy)
    (plain : h.isEmpty = true → h = .empty) (other : Nat)
    (empty : ((ws.putHandle id h).handle other).isEmpty = true) :
    (ws.putHandle id h).handle other = .empty := by
  by_cases same : other = id
  · subst same
    by_cases known : other < ws.handles.length
    · rw [handle_putHandle_self ws other h known] at empty ⊢
      exact plain empty
    · apply handle_eq_empty_of_le
      simpa using known
  · rw [handle_putHandle_ne ws id h other same] at empty ⊢
    exact tidy.plain other empty

theorem tidy_putHandle (id : Nat) {h : Handle} (tidy : ws.Tidy)
    (plain : h.isEmpty = true → h = .empty) : (ws.putHandle id h).Tidy :=
  ⟨tidy.names, plain_putHandle id tidy plain⟩

theorem tidy_remove (name : Text) (tidy : ws.Tidy) : (ws.remove name).Tidy where
  names := nodup_remove ws name tidy.names
  plain id empty := by
    by_cases removed : ws.number? name = some id
    · exact handle_remove_self ws name id removed
    · rw [handle_remove_ne ws name id removed] at empty ⊢
      exact tidy.plain id empty

theorem tidy_insertNew (name : Text) (new : Tensor) (tidy : ws.Tidy)
    (free : ws.number? name = none) : (ws.insertNew name (.holding new)).Tidy where
  names := nodup_insertNew ws name _ free tidy.names
  plain id empty := by
    by_cases new : id = ws.handles.length
    · subst new
      rw [handle_insertNew_self ws name _] at empty
      cases empty
    · rw [handle_insertNew_ne ws name _ id new] at empty ⊢
      exact tidy.plain id empty

end Tidy

theorem edit_tidy (before after : Workspace) (edit : Edit before after) (tidy : before.Tidy) :
    after.Tidy := by
  cases edit with
  | placed baseName memory => exact ⟨tidy.names, tidy.plain⟩
  | rewritten id old new held complete => exact tidy_putHandle id tidy nofun
  | inserted name new free complete => exact tidy_insertNew name new tidy free
  | removed name => exact tidy_remove name tidy
  | released id => exact tidy_putHandle id tidy fun _ => rfl

def content? (ws : Workspace) (name : Text) : Option Handle := (ws.number? name).map ws.handle

/-- A name keeps its entry: it is stored as before, under the same number, and that handle holds
what it held. -/
structure KeepsEntry (name : Text) (before after : Workspace) : Prop where
  number : after.number? name = before.number? name
  handle : ∀ id, before.number? name = some id → after.handle id = before.handle id

/-- A name is not stored any more, and the handle that it had is empty. -/
structure DropsEntry (name : Text) (before after : Workspace) : Prop where
  absent : after.number? name = none
  released : ∀ id, before.number? name = some id → after.handle id = .empty

theorem keepsEntry_refl (name : Text) (ws : Workspace) : KeepsEntry name ws ws :=
  ⟨rfl, fun _ _ => rfl⟩

theorem keepsEntry_trans {name : Text} {before between after : Workspace}
    (first : KeepsEntry name before between) (second : KeepsEntry name between after) :
    KeepsEntry name before after where
  number := second.number.trans first.number
  handle id stored :=
    (second.handle id (first.number.trans stored)).trans (first.handle id stored)

theorem content_of_keepsEntry {name : Text} {before after : Workspace}
    (keeps : KeepsEntry name before after) : after.content? name = before.content? name := by
  unfold content?
  rw [keeps.number]
  cases stored : before.number? name with
  | none => rfl
  | some id => simp [keeps.handle id stored]

theorem content_of_stored {ws : Workspace} {name : Text} {id : Nat}
    (stored : ws.number? name = some id) : ws.content? name = some (ws.handle id) := by
  simp [content?, stored]

section Put
variable {ws : Workspace} (id : Nat) (h : Handle)

theorem keepsEntry_putHandle {name : Text} (elsewhere : ws.number? name ≠ some id) :
    KeepsEntry name ws (ws.putHandle id h) where
  number := rfl
  handle other stored := by
    apply handle_putHandle_ne
    rintro rfl
    exact elsewhere stored

end Put

section Remove
variable {ws : Workspace} (name : Text)

theorem keepsEntry_remove (orderly : ws.Orderly) {other : Text} (different : other ≠ name) :
    KeepsEntry other ws (ws.remove name) where
  number := number_remove_ne ws name other different
  handle id stored := by
    apply handle_remove_ne
    intro shared
    exact different (orderly.numbers other name id stored shared)

theorem dropsEntry_remove : DropsEntry name ws (ws.remove name) where
  absent := number_remove_self ws name
  released id stored := handle_remove_self ws name id stored

end Remove

section Insert
variable {ws : Workspace} (name : Text) (h : Handle)

theorem keepsEntry_insertNew (orderly : ws.Orderly) {other : Text} (different : other ≠ name) :
    KeepsEntry other ws (ws.insertNew name h) where
  number := number_insertNew_ne ws name h other different
  handle id stored := handle_insertNew_ne ws name h id (orderly.known other id stored).ne

end Insert

section Effect
variable {name : Text} {before after : Workspace}

theorem orderly_replaced (orderly : before.Orderly) (new : Tensor) (complete : new.IsSound) :
    ((before.remove name).insertNew name (.holding new)).Orderly := by
  apply orderly_insertNew name _ (orderly_remove name orderly) (number_remove_self before name)
  rintro t ⟨⟩
  exact complete

theorem released_of_replaced (orderly : before.Orderly) (new : Tensor) {id : Nat}
    (stored : before.number? name = some id) :
    ((before.remove name).insertNew name (.holding new)).handle id = .empty := by
  have below : id ≠ (before.remove name).handles.length := by
    rw [length_remove]
    exact (orderly.known name id stored).ne
  rw [handle_insertNew_ne _ name _ id below]
  exact handle_remove_self before name id stored

theorem effect_orderly (effect : Effect name before after) (orderly : before.Orderly) :
    after.Orderly :=
  kept_of_edits edit_orderly (effect_edits effect) orderly

theorem number_of_effect (effect : Effect name before after) {other : Text}
    (different : other ≠ name) : after.number? other = before.number? other := by
  have replaced : ∀ h : Handle,
      ((before.remove name).insertNew name h).number? other = before.number? other := by
    intro h
    rw [number_insertNew_ne _ name h other different, number_remove_ne before name other different]
  cases effect with
  | untouched => rfl
  | rewritten => rfl
  | replaced new complete => exact replaced (.holding new)
  | removed => exact number_remove_ne before name other different
  | withdrawn new complete =>
      rw [number_remove_ne _ name other different]
      exact replaced (.holding new)

theorem effect_keepsEntry (effect : Effect name before after) (orderly : before.Orderly)
    {other : Text} (different : other ≠ name) : KeepsEntry other before after := by
  have replaced : ∀ new : Tensor,
      KeepsEntry other before ((before.remove name).insertNew name (.holding new)) := by
    intro new
    apply keepsEntry_trans (keepsEntry_remove name orderly different)
    exact keepsEntry_insertNew name _ (orderly_remove name orderly) different
  cases effect with
  | untouched => exact keepsEntry_refl other before
  | rewritten id old new stored held complete =>
      apply keepsEntry_putHandle
      intro shared
      exact different (orderly.numbers other name id shared stored)
  | replaced new complete => exact replaced new
  | removed => exact keepsEntry_remove name orderly different
  | withdrawn new complete =>
      apply keepsEntry_trans (replaced new)
      exact keepsEntry_remove name (orderly_replaced orderly new complete) different

theorem dropsEntry_of_effect (effect : Effect name before after) (orderly : before.Orderly)
    (absent : after.number? name = none) : DropsEntry name before after := by
  cases effect with
  | untouched =>
      constructor
      · exact absent
      · intro id stored
        rw [absent] at stored
        cases stored
  | rewritten id old new stored held complete =>
      rw [number_putHandle, stored] at absent
      cases absent
  | replaced new complete =>
      rw [number_insertNew_self _ name _ (number_remove_self before name)] at absent
      cases absent
  | removed => exact dropsEntry_remove name
  | withdrawn new complete =>
      constructor
      · exact absent
      · intro id stored
        -- The handle that was made and taken back has a number above the old one.
        have made := number_insertNew_self (before.remove name) name (.holding new)
          (number_remove_self before name)
        rw [handle_remove_ne]
        · exact released_of_replaced orderly new stored
        · rw [made, length_remove]
          intro same
          exact (orderly.known name id stored).ne (Option.some.inj same).symm

/-- An effect makes at most one handle, and the directory and the memory stay what they are. -/
structure Continues (before after : Workspace) : Prop where
  baseName : after.baseName = before.baseName
  memory : after.memory = before.memory
  made : after.handles.length = before.handles.length ∨
    after.handles.length = before.handles.length + 1

theorem continues_refl (ws : Workspace) : Continues ws ws := ⟨rfl, rfl, Or.inl rfl⟩

theorem continues_remove {made : Workspace} (continues : Continues before made) (name : Text) :
    Continues before (made.remove name) where
  baseName := by
    rw [← continues.baseName]
    unfold remove
    split <;> rfl
  memory := by
    rw [← continues.memory]
    unfold remove
    split <;> rfl
  made := by
    rw [length_remove]
    exact continues.made

theorem effect_continues (effect : Effect name before after) : Continues before after := by
  have removed := continues_remove (continues_refl before) name
  have replaced : ∀ new : Tensor,
      Continues before ((before.remove name).insertNew name (.holding new)) := by
    intro new
    constructor
    · exact removed.baseName
    · exact removed.memory
    · right
      rw [length_insertNew, length_remove]
  cases effect with
  | untouched => exact continues_refl before
  | rewritten id old new stored held complete =>
      constructor
      · rfl
      · rfl
      · left
        exact length_putHandle before id (.holding new)
  | replaced new complete => exact replaced new
  | removed => exact removed
  | withdrawn new complete => exact continues_remove (replaced new) name

end Effect

end TensorBundle.Workspace
