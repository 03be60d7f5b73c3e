import Mathlib
import TensorBundle.Workspace
/-!
What the three changes of a workspace do to its entries and to its handles: forgetting a name,
storing a new handle under a free name, and putting something else into a handle. Every other
change is made of these. They keep a workspace orderly: no two names share a handle, also if
callers release handles that are still stored. And they keep it sound if callers do not: a handle
holds a tensor exactly while it is stored, and a stored tensor has the bytes that its type and its
shape say.
-/
namespace TensorBundle

namespace Handle

@[simp] theorem isEmpty_holding (t : Tensor) : (Handle.holding t).isEmpty = false := rfl

@[simp] theorem isEmpty_empty : Handle.empty.isEmpty = true := rfl

theorem not_isEmpty_iff (h : Handle) : h.isEmpty = false ↔ ∃ t, h = .holding t := by
  cases h with
  | vacant type shape => simp [isEmpty, tensor?]
  | holding t => simp

theorem eq_holding {h : Handle} {t : Tensor} (holding : h.tensor? = some t) :
    h = .holding t := by
  cases h with
  | vacant type shape => cases holding
  | holding other =>
      cases holding
      rfl

theorem isLike_iff (h : Handle) (type : DataType) (shape : Shape) :
    h.isLike (some type) (shape.map Int.ofNat) = true ↔
      ∃ t, h = .holding t ∧ t.type = type ∧ t.shape = shape := by
  have injective : Function.Injective (List.map Int.ofNat) :=
    List.map_injective_iff.mpr fun _ _ same => Int.ofNat.inj same
  cases h with
  | vacant type' shape' => simp [isLike, isEmpty, tensor?]
  | holding t => simp [isLike, type?, sameShape, dimensions?, injective.eq_iff]

end Handle

namespace Workspace

theorem lookup_filter_ne {β : Type} (entries : List (Text × β)) (name other : Text) :
    (entries.filter (·.1 ≠ name)).lookup other =
      if other = name then none else entries.lookup other := by
  induction entries with
  | nil => simp
  | cons entry rest ih =>
      obtain ⟨key, id⟩ := entry
      -- The entry is dropped, or it is the one looked for, or it is passed over.
      by_cases forgotten : key = name
      · subst forgotten
        by_cases same : other = key
        · simpa [same] using ih
        · simpa [same, List.lookup_cons, beq_eq_false_iff_ne.mpr same] using ih
      · by_cases same : other = key
        · subst same
          simp [forgotten]
        · simpa [forgotten, List.lookup_cons, beq_eq_false_iff_ne.mpr same] using ih

theorem lookup_of_mem (entries : List (Text × Nat)) (distinct : (entries.map Prod.fst).Nodup)
    (name : Text) (id : Nat) (member : (name, id) ∈ entries) : entries.lookup name = some id := by
  induction entries with
  | nil => cases member
  | cons entry rest ih =>
      obtain ⟨key, number⟩ := entry
      obtain ⟨absent, restDistinct⟩ := List.nodup_cons.mp distinct
      rcases List.mem_cons.mp member with same | later
      · cases same
        simp
      · have different : name ≠ key := by
          rintro rfl
          exact absent (List.mem_map.mpr ⟨(name, id), later, rfl⟩)
        have apart : (name == key) = false := beq_eq_false_iff_ne.mpr different
        simpa [List.lookup_cons, apart] using ih restDistinct later

theorem mem_keys_iff (ws : Workspace) (name : Text) :
    name ∈ ws.entries.map Prod.fst ↔ ws.contains name = true := by
  rw [contains, number?, List.lookup_isSome_iff, List.mem_map]
  simp only [beq_iff_eq, @eq_comm _ _ name]

theorem handle_eq_empty_of_le (ws : Workspace) (id : Nat) (past : ws.handles.length ≤ id) :
    ws.handle id = .empty := by
  simp [handle, List.getElem?_eq_none past]

theorem lt_of_holding (ws : Workspace) (id : Nat) (t : Tensor) (held : ws.handle id = .holding t) :
    id < ws.handles.length := by
  by_contra past
  rw [handle_eq_empty_of_le ws id (Nat.le_of_not_lt past)] at held
  cases held

section Put
variable (ws : Workspace) (id : Nat) (h : Handle)

@[simp] theorem entries_putHandle : (ws.putHandle id h).entries = ws.entries := rfl

@[simp] theorem available_putHandle : (ws.putHandle id h).available = ws.available := by
  simp [available, putHandle]

@[simp] theorem number_putHandle (name : Text) :
    (ws.putHandle id h).number? name = ws.number? name := rfl

@[simp] theorem length_putHandle : (ws.putHandle id h).handles.length = ws.handles.length := by
  simp [putHandle]

theorem handle_putHandle_ne (other : Nat) (different : other ≠ id) :
    (ws.putHandle id h).handle other = ws.handle other := by
  simp [handle, putHandle, List.getElem?_set_ne different.symm]

theorem handle_putHandle_self (known : id < ws.handles.length) :
    (ws.putHandle id h).handle id = h := by
  simp [handle, putHandle, known]

theorem putHandle_putHandle (later : Handle) :
    (ws.putHandle id h).putHandle id later = ws.putHandle id later := by
  simp [putHandle]

theorem handle_release_self : (ws.release id).handle id = .empty := by
  by_cases known : id < ws.handles.length
  · exact handle_putHandle_self ws id .empty known
  · apply handle_eq_empty_of_le
    simpa [release] using known

end Put

section Remove
variable (ws : Workspace) (name : Text)

theorem remove_of_absent (absent : ws.number? name = none) : ws.remove name = ws := by
  simp [remove, absent]

theorem remove_of_stored (id : Nat) (stored : ws.number? name = some id) :
    ws.remove name = { ws.release id with entries := ws.entries.filter (·.1 ≠ name) } := by
  simp [remove, stored]

@[simp] theorem available_remove : (ws.remove name).available = ws.available := by
  unfold remove
  split
  · rfl
  · exact available_putHandle ws _ .empty

@[simp] theorem length_remove : (ws.remove name).handles.length = ws.handles.length := by
  unfold remove
  split
  · rfl
  · exact length_putHandle ws _ .empty

theorem entries_remove : (ws.remove name).entries = ws.entries.filter (·.1 ≠ name) := by
  cases stored : ws.number? name with
  | some id => rw [remove_of_stored ws name id stored]
  | none =>
      rw [remove_of_absent ws name stored]
      have fresh := List.lookup_eq_none_iff.mp stored
      refine (List.filter_eq_self.mpr fun entry member => ?_).symm
      simpa using (bne_iff_ne.mp (fresh entry member)).symm

theorem number_remove (other : Text) :
    (ws.remove name).number? other = if other = name then none else ws.number? other := by
  rw [number?, entries_remove, lookup_filter_ne]
  rfl

@[simp] theorem number_remove_self : (ws.remove name).number? name = none := by
  simp [number_remove]

theorem number_remove_ne (other : Text) (different : other ≠ name) :
    (ws.remove name).number? other = ws.number? other := by
  simp [number_remove, different]

theorem nodup_remove (distinct : (ws.entries.map Prod.fst).Nodup) :
    ((ws.remove name).entries.map Prod.fst).Nodup := by
  rw [entries_remove]
  exact distinct.sublist (List.filter_sublist.map Prod.fst)

theorem handle_remove_self (id : Nat) (stored : ws.number? name = some id) :
    (ws.remove name).handle id = .empty := by
  rw [remove_of_stored ws name id stored]
  exact handle_release_self ws id

theorem handle_remove_ne (id : Nat) (different : ws.number? name ≠ some id) :
    (ws.remove name).handle id = ws.handle id := by
  cases stored : ws.number? name with
  | none => rw [remove_of_absent ws name stored]
  | some removed =>
      rw [remove_of_stored ws name removed stored]
      apply handle_putHandle_ne
      rintro rfl
      exact different stored

end Remove

section Insert
variable (ws : Workspace) (name : Text) (h : Handle)

@[simp] theorem length_insertNew :
    (ws.insertNew name h).handles.length = ws.handles.length + 1 := by
  simp [insertNew]

theorem number_insertNew_self (free : ws.number? name = none) :
    (ws.insertNew name h).number? name = some ws.handles.length := by
  unfold number? at free ⊢
  rw [insertNew, List.lookup_append, free]
  simp

theorem number_insertNew_ne (other : Text) (different : other ≠ name) :
    (ws.insertNew name h).number? other = ws.number? other := by
  have apart : (other == name) = false := beq_eq_false_iff_ne.mpr different
  simp [number?, insertNew, List.lookup_append, List.lookup_cons, apart]

@[simp] theorem handle_insertNew_self : (ws.insertNew name h).handle ws.handles.length = h := by
  simp [handle, insertNew]

theorem nodup_insertNew (free : ws.number? name = none)
    (distinct : (ws.entries.map Prod.fst).Nodup) :
    ((ws.insertNew name h).entries.map Prod.fst).Nodup := by
  have fresh : name ∉ ws.entries.map Prod.fst := by
    rw [mem_keys_iff, contains, free]
    exact nofun
  simp only [insertNew, List.map_append, List.map_cons, List.map_nil]
  refine List.nodup_append.mpr ⟨distinct, List.nodup_singleton name, ?_⟩
  rintro listed member _ (_ | ⟨_, ⟨⟩⟩) rfl
  exact fresh member

theorem handle_insertNew_ne (id : Nat) (different : id ≠ ws.handles.length) :
    (ws.insertNew name h).handle id = ws.handle id := by
  rcases Nat.lt_or_gt_of_ne different with known | past
  · simp [handle, insertNew, List.getElem?_append_left known]
  · rw [handle_eq_empty_of_le ws id past.le, handle_eq_empty_of_le]
    simpa using past

theorem putHandle_insertNew (later : Handle) :
    (ws.insertNew name h).putHandle ws.handles.length later = ws.insertNew name later := by
  simp [putHandle, insertNew]

end Insert

end Workspace
end TensorBundle

namespace TensorBundle.Workspace

/-- No two names share a handle, every stored handle was made, and tensors are complete. -/
structure Orderly (ws : Workspace) : Prop where
  numbers : ∀ name other id, ws.number? name = some id → ws.number? other = some id → name = other
  known : ∀ name id, ws.number? name = some id → id < ws.handles.length
  complete : ∀ id t, ws.handle id = .holding t → t.IsSound

theorem orderly_of_no_entries (ws : Workspace) (entries : ws.entries = [])
    (handles : ws.handles = []) : Orderly ws where
  numbers name other id stored := by simp [number?, entries] at stored
  known name id stored := by simp [number?, entries] at stored
  complete id t held := by simp [handle, handles, Handle.empty] at held

variable {ws : Workspace}

theorem orderly_putHandle (id : Nat) (h : Handle) (orderly : ws.Orderly)
    (complete : ∀ t, h = .holding t → t.IsSound) : (ws.putHandle id h).Orderly where
  numbers := orderly.numbers
  known name other stored := by
    rw [length_putHandle]
    exact orderly.known name other stored
  complete other t held := by
    by_cases same : other = id
    · subst same
      by_cases known : other < ws.handles.length
      · rw [handle_putHandle_self ws other h known] at held
        exact complete t held
      · rw [handle_eq_empty_of_le _ other (by simpa using known)] at held
        cases held
    · rw [handle_putHandle_ne ws id h other same] at held
      exact orderly.complete other t held

theorem orderly_remove (name : Text) (orderly : ws.Orderly) : (ws.remove name).Orderly where
  numbers first second id storedFirst storedSecond := by
    rw [number_remove] at storedFirst storedSecond
    split at storedFirst
    · cases storedFirst
    split at storedSecond
    · cases storedSecond
    exact orderly.numbers first second id storedFirst storedSecond
  known other id stored := by
    rw [number_remove] at stored
    split at stored
    · cases stored
    · rw [length_remove]
      exact orderly.known other id stored
  complete id t held := by
    by_cases removed : ws.number? name = some id
    · rw [handle_remove_self ws name id removed] at held
      cases held
    · rw [handle_remove_ne ws name id removed] at held
      exact orderly.complete id t held

theorem orderly_insertNew (name : Text) (h : Handle) (orderly : ws.Orderly)
    (free : ws.number? name = none) (complete : ∀ t, h = .holding t → t.IsSound) :
    (ws.insertNew name h).Orderly where
  numbers first second id storedFirst storedSecond := by
    -- The new number is above every number that was stored before.
    have below : ∀ other, other ≠ name → (ws.insertNew name h).number? other = some id →
        ws.number? other = some id ∧ id < ws.handles.length := by
      intro other different stored
      rw [number_insertNew_ne ws name h other different] at stored
      exact ⟨stored, orderly.known other id stored⟩
    have new : (ws.insertNew name h).number? name = some id → id = ws.handles.length := by
      intro stored
      rw [number_insertNew_self ws name h free] at stored
      exact (Option.some.inj stored).symm
    by_cases isFirst : first = name <;> by_cases isSecond : second = name
    · rw [isFirst, isSecond]
    · subst isFirst
      have above := new storedFirst
      have old := (below second isSecond storedSecond).2
      omega
    · subst isSecond
      have above := new storedSecond
      have old := (below first isFirst storedFirst).2
      omega
    · exact orderly.numbers first second id (below first isFirst storedFirst).1
        (below second isSecond storedSecond).1
  known other id stored := by
    rw [length_insertNew]
    by_cases same : other = name
    · subst same
      rw [number_insertNew_self ws other h free] at stored
      cases stored
      omega
    · rw [number_insertNew_ne ws name h other same] at stored
      exact Nat.lt_succ_of_lt (orderly.known other id stored)
  complete id t held := by
    by_cases new : id = ws.handles.length
    · subst new
      rw [handle_insertNew_self ws name h] at held
      exact complete t held
    · rw [handle_insertNew_ne ws name h id new] at held
      exact orderly.complete id t held

structure Sound (ws : Workspace) : Prop where
  names : (ws.entries.map Prod.fst).Nodup
  numbers : ∀ name other id, ws.number? name = some id → ws.number? other = some id → name = other
  stored : ∀ name id, ws.number? name = some id → ∃ t, ws.handle id = .holding t ∧ t.IsSound
  owned : ∀ id t, ws.handle id = .holding t → ∃ name, ws.number? name = some id

/-- What later workspaces keep of an earlier one: its handles and names that go on together, and the
handles that were empty. -/
structure Evolves (before after : Workspace) : Prop where
  grows : before.handles.length ≤ after.handles.length
  stays : ∀ name id, id < before.handles.length → before.number? name = some id →
    after.number? name = some id ∨ (after.handle id).isEmpty = true
  rests : ∀ id, id < before.handles.length → (before.handle id).isEmpty = true →
    (after.handle id).isEmpty = true

theorem evolves_refl (ws : Workspace) : Evolves ws ws :=
  ⟨le_rfl, fun _ _ _ stored => Or.inl stored, fun _ _ empty => empty⟩

theorem evolves_trans {before between after : Workspace} (first : Evolves before between)
    (second : Evolves between after) : Evolves before after where
  grows := first.grows.trans second.grows
  stays name id known stored := by
    have knownThen := known.trans_le first.grows
    rcases first.stays name id known stored with still | empty
    · exact second.stays name id knownThen still
    · exact Or.inr (second.rests id knownThen empty)
  rests id known empty :=
    second.rests id (known.trans_le first.grows) (first.rests id known empty)

/-- What every step of a caller does: it keeps a workspace sound, and the workspace goes on. -/
structure Keeps (before after : Workspace) : Prop where
  sound : Sound before → Sound after
  evolves : Evolves before after

theorem keeps_refl (ws : Workspace) : Keeps ws ws := ⟨id, evolves_refl ws⟩

theorem keeps_trans (before between after : Workspace) (first : Keeps before between)
    (second : Keeps between after) : Keeps before after :=
  ⟨fun sound => second.sound (first.sound sound), evolves_trans first.evolves second.evolves⟩

theorem sound_of_no_entries (ws : Workspace) (entries : ws.entries = [])
    (handles : ws.handles = []) : Sound ws where
  names := by simp [entries]
  numbers name other id stored := by simp [number?, entries] at stored
  stored name id stored := by simp [number?, entries] at stored
  owned id t held := by simp [handle, handles, Handle.empty] at held

theorem number_of_mem {ws : Workspace} (sound : Sound ws) {name : Text} {id : Nat}
    (member : (name, id) ∈ ws.entries) : ws.number? name = some id :=
  lookup_of_mem ws.entries sound.names name id member

theorem lt_of_stored {ws : Workspace} (sound : Sound ws) {name : Text} {id : Nat}
    (stored : ws.number? name = some id) : id < ws.handles.length := by
  obtain ⟨t, held, _⟩ := sound.stored name id stored
  exact lt_of_holding ws id t held

theorem orderly_of_sound {ws : Workspace} (sound : Sound ws) : ws.Orderly where
  numbers := sound.numbers
  known name id stored := lt_of_stored sound stored
  complete id t held := by
    obtain ⟨name, stored⟩ := sound.owned id t held
    obtain ⟨other, holding, complete⟩ := sound.stored name id stored
    rw [held] at holding
    cases holding
    exact complete

section Remove
variable {ws : Workspace} (name : Text)

theorem sound_remove (sound : Sound ws) : Sound (ws.remove name) where
  names := nodup_remove ws name sound.names
  numbers := (orderly_remove name (orderly_of_sound sound)).numbers
  stored other id stored := by
    rw [number_remove] at stored
    split at stored
    · cases stored
    · rename_i different
      have apart : ws.number? name ≠ some id := fun taken =>
        different (sound.numbers other name id stored taken)
      rw [handle_remove_ne ws name id apart]
      exact sound.stored other id stored
  owned id t held := by
    by_cases removed : ws.number? name = some id
    · rw [handle_remove_self ws name id removed] at held
      cases held
    · rw [handle_remove_ne ws name id removed] at held
      obtain ⟨owner, stored⟩ := sound.owned id t held
      refine ⟨owner, (number_remove_ne ws name owner ?_).trans stored⟩
      rintro rfl
      exact removed stored

theorem evolves_remove : Evolves ws (ws.remove name) where
  grows := by simp
  stays other id _ stored := by
    by_cases same : other = name
    · subst same
      exact Or.inr (by rw [handle_remove_self ws other id stored]; rfl)
    · exact Or.inl ((number_remove_ne ws name other same).trans stored)
  rests id _ empty := by
    by_cases removed : ws.number? name = some id
    · rw [handle_remove_self ws name id removed]
      rfl
    · rwa [handle_remove_ne ws name id removed]

end Remove

section Insert
variable {ws : Workspace} (name : Text) (t : Tensor)

theorem sound_insertNew (sound : Sound ws) (free : ws.number? name = none) (complete : t.IsSound) :
    Sound (ws.insertNew name (.holding t)) where
  names := nodup_insertNew ws name _ free sound.names
  numbers := by
    refine (orderly_insertNew name _ (orderly_of_sound sound) free ?_).numbers
    rintro _ ⟨⟩
    exact complete
  stored other id stored := by
    by_cases same : other = name
    · subst same
      rw [number_insertNew_self ws other _ free] at stored
      cases stored
      exact ⟨t, handle_insertNew_self ws other _, complete⟩
    · rw [number_insertNew_ne ws name _ other same] at stored
      rw [handle_insertNew_ne ws name _ id (lt_of_stored sound stored).ne]
      exact sound.stored other id stored
  owned id held holding := by
    by_cases new : id = ws.handles.length
    · subst new
      exact ⟨name, number_insertNew_self ws name _ free⟩
    · rw [handle_insertNew_ne ws name _ id new] at holding
      obtain ⟨owner, stored⟩ := sound.owned id held holding
      refine ⟨owner, (number_insertNew_ne ws name _ owner ?_).trans stored⟩
      rintro rfl
      rw [free] at stored
      cases stored

theorem evolves_insertNew (free : ws.number? name = none) (h : Handle) :
    Evolves ws (ws.insertNew name h) where
  grows := by simp
  stays other id _ stored := by
    refine Or.inl ((number_insertNew_ne ws name h other ?_).trans stored)
    rintro rfl
    rw [free] at stored
    cases stored
  rests id known empty := by
    rwa [handle_insertNew_ne ws name h id known.ne]

end Insert

section Put
variable {ws : Workspace} (id : Nat) (old new : Tensor)

theorem sound_putHandle (sound : Sound ws) (held : ws.handle id = .holding old)
    (complete : old.IsSound → new.IsSound) : Sound (ws.putHandle id (.holding new)) where
  names := sound.names
  numbers := sound.numbers
  stored name stored isStored := by
    obtain ⟨t, holding, whole⟩ := sound.stored name stored isStored
    by_cases same : stored = id
    · subst same
      rw [held] at holding
      cases holding
      exact ⟨new, handle_putHandle_self ws stored _ (lt_of_holding ws stored old held),
        complete whole⟩
    · exact ⟨t, (handle_putHandle_ne ws id _ stored same).trans holding, whole⟩
  owned other t holding := by
    by_cases same : other = id
    · subst same
      exact sound.owned other old held
    · rw [handle_putHandle_ne ws id _ other same] at holding
      exact sound.owned other t holding

theorem evolves_putHandle (held : ws.handle id = .holding old) :
    Evolves ws (ws.putHandle id (.holding new)) where
  grows := by simp
  stays _ _ _ stored := Or.inl stored
  rests other _ empty := by
    by_cases same : other = id
    · subst same
      rw [held] at empty
      cases empty
    · rwa [handle_putHandle_ne ws id _ other same]

end Put

end TensorBundle.Workspace
