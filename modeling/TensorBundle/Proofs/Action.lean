import Mathlib
import TensorBundle.Workspace
/-!
How actions run. The outcome of a sequence of actions is the outcome of the first, from which the
others go on; the equations below run an action one step at a time, and the predicates at the end
say what an action does to a workspace and what it tells, whatever comes of it, and when one action
does what another does wherever that succeeds.
-/
namespace TensorBundle

section Checks
variable {ε α β : Type} {x : Except ε α} {f : α → Except ε β}

theorem bind_eq_ok {b : β} (done : (x >>= f) = .ok b) : ∃ a, x = .ok a ∧ f a = .ok b := by
  cases x with
  | error e => cases done
  | ok a => exact ⟨a, rfl, done⟩

theorem bind_eq_error {e : ε} (failed : (x >>= f) = .error e) :
    x = .error e ∨ ∃ a, x = .ok a ∧ f a = .error e := by
  cases x with
  | error e' =>
      cases failed
      exact Or.inl rfl
  | ok a => exact Or.inr ⟨a, rfl, failed⟩

theorem ok_of_toOption {r : Except ε α} {a : α} (present : r.toOption = some a) : r = .ok a := by
  cases r with
  | error e => cases present
  | ok b =>
      cases present
      rfl

theorem mapM_eq_ok_iff {γ : Type} (check : γ → Except ε α) (items : List γ) (values : List α) :
    items.mapM check = .ok values ↔
      List.Forall₂ (fun item a => check item = .ok a) items values := by
  induction items generalizing values with
  | nil => cases values <;> simp [pure, Except.pure]
  | cons item rest ih =>
      rw [List.mapM_cons]
      constructor
      · intro done
        obtain ⟨value, first, done⟩ := bind_eq_ok done
        obtain ⟨others, tail, same⟩ := bind_eq_ok done
        cases same
        exact .cons first ((ih others).mp tail)
      · intro each
        cases each with
        | cons first tail =>
            rw [first, (ih _).mpr tail]
            rfl

theorem forall_of_forall₂ {γ δ : Type} {relation : γ → δ → Prop} {P : γ → Prop} {Q : δ → Prop}
    {xs : List γ} {ys : List δ} (each : List.Forall₂ relation xs ys) (fits : ∀ x ∈ xs, P x)
    (gives : ∀ x y, P x → relation x y → Q y) : ∀ y ∈ ys, Q y := by
  have both := (List.forall₂_and_left xs ys).mpr ⟨fits, each⟩
  have flipped : List.Forall₂ (fun y _ => Q y ∧ True) ys xs :=
    both.flip.imp fun y x ⟨fit, related⟩ => ⟨gives x y fit related, trivial⟩
  exact ((List.forall₂_and_left ys xs).mp flipped).1

theorem exists_of_mapM_error {γ : Type} {check : γ → Except ε α} {items : List γ} {e : ε}
    (failed : items.mapM check = .error e) : ∃ item ∈ items, check item = .error e := by
  induction items with
  | nil => cases failed
  | cons item rest ih =>
      rw [List.mapM_cons] at failed
      rcases bind_eq_error failed with first | ⟨value, _, failed⟩
      · exact ⟨item, List.mem_cons_self, first⟩
      · rcases bind_eq_error failed with tail | ⟨values, _, failed⟩
        · obtain ⟨other, member, fails⟩ := ih tail
          exact ⟨other, List.mem_cons_of_mem item member, fails⟩
        · cases failed

theorem exists_mapM {γ : Type} {check : γ → Except ε α} {items : List γ}
    (each : ∀ item ∈ items, ∃ a, check item = .ok a) : ∃ values, items.mapM check = .ok values := by
  cases result : items.mapM check with
  | ok values => exact ⟨values, rfl⟩
  | error e =>
      obtain ⟨item, member, fails⟩ := exists_of_mapM_error result
      obtain ⟨a, done⟩ := each item member
      cases fails.symm.trans done

end Checks

/-! An error is worded when it is raised, and what cannot be worded is a fault. -/

theorem Text.isWritable_iff (n : Int) :
    Text.isWritable n = true ↔ n.natAbs < 10 ^ Text.digitLimit := by
  -- With a variable in the place of the limit, the power is no number to be computed.
  have decided : ∀ limit, decide (n.natAbs < Nat.pow 10 limit) = true ↔ n.natAbs < 10 ^ limit :=
    fun _ => decide_eq_true_iff
  unfold Text.isWritable
  exact decided Text.digitLimit

/-- There is room for the powers of two up to the limit, as each digit is worth more than a bit. -/
theorem Text.isWritable_of_le_two_pow {n : Int} {exponent : Nat}
    (within : exponent ≤ Text.digitLimit) (small : n.natAbs ≤ 2 ^ exponent) :
    Text.isWritable n = true := by
  have positive : 0 < Text.digitLimit := by decide
  have grows : ∀ limit, exponent ≤ limit → 0 < limit → 2 ^ exponent < 10 ^ limit := by
    intro limit le some
    calc 2 ^ exponent ≤ 2 ^ limit := Nat.pow_le_pow_right (by decide) le
      _ < 10 ^ limit := Nat.pow_lt_pow_left (by decide) some.ne'
  exact (Text.isWritable_iff n).mpr (small.trans_lt (grows Text.digitLimit within positive))

theorem Text.isWritable_of_lt {n : Int} (small : n.natAbs < 10) : Text.isWritable n = true := by
  have within : 4 ≤ Text.digitLimit := by decide
  exact Text.isWritable_of_le_two_pow within (by omega)

namespace BundleError

theorem raised_of_writable {e : BundleError} (writable : e.isWritable = true) :
    e.raised = .error e := if_pos writable

theorem raised_of_unwritable {e : BundleError} (unwritable : e.isWritable = false) :
    e.raised = .fault .unwritableInteger := by
  rw [raised, unwritable]
  rfl

theorem raised_eq_error_iff (e other : BundleError) :
    e.raised = .error other ↔ e = other ∧ e.isWritable = true := by
  cases writable : e.isWritable <;> simp [raised, writable]

theorem raised_eq_fault_iff (e : BundleError) (fault : Fault) :
    e.raised = .fault fault ↔ fault = .unwritableInteger ∧ e.isWritable = false := by
  cases writable : e.isWritable <;> simp [raised, writable, eq_comm]

@[simp] theorem raised_validation (problem : ValidationProblem)
    (parameter expected received : Option Text) :
    (validation problem parameter expected received).raised =
      .error (.validation problem parameter expected received) := rfl

@[simp] theorem raised_unsupported (operation : Text) (supported : List Text) :
    (unsupported operation supported).raised = .error (.unsupported operation supported) := rfl

end BundleError

section Raised
variable {α : Type} {r : Except BundleError α}

/-- A check ends in an error that cannot be worded. -/
def IsUnwritable (r : Except BundleError α) : Prop := ∃ e, r = .error e ∧ e.isWritable = false

theorem mapError_raised_eq_ok_iff (a : α) : r.mapError BundleError.raised = .ok a ↔ r = .ok a := by
  cases r <;> simp [Except.mapError]

theorem mapError_raised_eq_error_iff (e : BundleError) :
    r.mapError BundleError.raised = .error (.error e) ↔ r = .error e ∧ e.isWritable = true := by
  cases r with
  | ok a => simp [Except.mapError]
  | error other =>
      simp only [Except.mapError, Except.error.injEq, BundleError.raised_eq_error_iff]
      exact and_congr_right fun same => by rw [same]

theorem mapError_raised_eq_fault_iff (fault : Fault) :
    r.mapError BundleError.raised = .error (.fault fault) ↔
      fault = .unwritableInteger ∧ IsUnwritable r := by
  cases r with
  | ok a => simp [Except.mapError, IsUnwritable]
  | error e => simp [Except.mapError, IsUnwritable, BundleError.raised_eq_fault_iff]

theorem mapError_raised_of_unwritable (refused : IsUnwritable r) :
    r.mapError BundleError.raised = .error (.fault .unwritableInteger) :=
  (mapError_raised_eq_fault_iff _).mpr ⟨rfl, refused⟩

theorem fault_of_bind_raised {β : Type} {f : α → Except Failure β} {fault : Fault}
    (failed : (r.mapError BundleError.raised >>= f) = .error (.fault fault)) :
    (fault = .unwritableInteger ∧ IsUnwritable r) ∨
      ∃ a, r = .ok a ∧ f a = .error (.fault fault) := by
  rcases bind_eq_error failed with failed | ⟨a, given, failed⟩
  · exact Or.inl ((mapError_raised_eq_fault_iff fault).mp failed)
  · exact Or.inr ⟨a, (mapError_raised_eq_ok_iff a).mp given, failed⟩

end Raised

section Results

def IsAnswer (result : Except Failure Status) : Prop := ∀ fault, result ≠ .error (.fault fault)

instance : DecidablePred IsAnswer
  | .error (.fault fault) => isFalse fun answers => answers fault rfl
  | .error (.error _) => isTrue nofun
  | .ok _ => isTrue nofun

def Succeeds (result : Except Failure Status) : Prop :=
  ∃ status, result = .ok status ∧ status.isOk = true

theorem succeeds_ok_iff (status : Status) : Succeeds (.ok status) ↔ status.isOk = true := by
  constructor
  · rintro ⟨_, ⟨⟩, well⟩
    exact well
  · intro well
    exact ⟨status, rfl, well⟩

instance : DecidablePred Succeeds
  | .error _ => isFalse nofun
  | .ok status => decidable_of_iff _ (succeeds_ok_iff status).symm

end Results

namespace Outcome
variable {α β : Type}

def logged (earlier : List Log.Entry) (outcome : Outcome α) : Outcome α :=
  { outcome with log := earlier ++ outcome.log }

def andThen (first : Outcome α) (next : α → Action β) : Outcome β :=
  match first with
  | ⟨.ok a, ws, log⟩ => (next a ws).logged log
  | ⟨.error e, ws, log⟩ => ⟨.error e, ws, log⟩

@[simp] theorem result_logged (earlier : List Log.Entry) (outcome : Outcome α) :
    (outcome.logged earlier).result = outcome.result := rfl

@[simp] theorem workspace_logged (earlier : List Log.Entry) (outcome : Outcome α) :
    (outcome.logged earlier).workspace = outcome.workspace := rfl

@[simp] theorem log_logged (earlier : List Log.Entry) (outcome : Outcome α) :
    (outcome.logged earlier).log = earlier ++ outcome.log := rfl

@[simp] theorem andThen_ok (a : α) (ws : Workspace) (log : List Log.Entry) (next : α → Action β) :
    andThen ⟨.ok a, ws, log⟩ next = (next a ws).logged log := rfl

@[simp] theorem andThen_error (e : Failure) (ws : Workspace) (log : List Log.Entry)
    (next : α → Action β) : andThen ⟨.error e, ws, log⟩ next = ⟨.error e, ws, log⟩ := rfl

end Outcome

namespace Action
variable {α β : Type}

theorem bind_run (x : Action α) (f : α → Action β) (ws : Workspace) :
    (x >>= f) ws = (x ws).andThen f := by
  change Action.bind x f ws = (x ws).andThen f
  unfold Action.bind Outcome.andThen
  rcases x ws with ⟨_ | _, _, _⟩ <;> rfl

theorem bind_run_ok {x : Action α} {f : α → Action β} {ws after : Workspace} {a : α}
    (ran : x ws = ⟨.ok a, after, []⟩) : (x >>= f) ws = f a after := by
  rw [bind_run, ran]
  rfl

theorem bind_run_error {x : Action α} {f : α → Action β} {ws after : Workspace} {e : Failure}
    {log : List Log.Entry} (failed : x ws = ⟨.error e, after, log⟩) :
    (x >>= f) ws = ⟨.error e, after, log⟩ := by
  rw [bind_run, failed]
  rfl

theorem map_run (f : α → β) (x : Action α) (ws : Workspace) :
    (f <$> x) ws = (x ws).andThen fun a => Action.pure (f a) := bind_run x _ ws

@[simp] theorem pure_run (a : α) (ws : Workspace) :
    (Pure.pure a : Action α) ws = ⟨.ok a, ws, []⟩ := rfl

@[simp] theorem fail_run (e : Failure) (ws : Workspace) :
    (fail e : Action α) ws = ⟨.error e, ws, []⟩ :=
  rfl

@[simp] theorem reject_run (e : BundleError) (ws : Workspace) :
    (reject e : Action α) ws = ⟨.error (.error e), ws, []⟩ := rfl

@[simp] theorem ofExcept_run (r : Except Failure α) (ws : Workspace) :
    ofExcept r ws = ⟨r, ws, []⟩ := by
  cases r <;> rfl

@[simp] theorem ofChecked_run (r : Except BundleError α) (ws : Workspace) :
    ofChecked r ws = ⟨r.mapError BundleError.raised, ws, []⟩ := by
  cases r <;> rfl

@[simp] theorem read_run (ws : Workspace) : read ws = ⟨.ok ws, ws, []⟩ := rfl

@[simp] theorem modify_run (f : Workspace → Workspace) (ws : Workspace) :
    modify f ws = ⟨.ok (), f ws, []⟩ := rfl

@[simp] theorem tell_run (level : Log.Level) (source : Log.Source) (message : Text)
    (ws : Workspace) :
    tell level source message ws = ⟨.ok (), ws, [⟨level, source, message⟩]⟩ := rfl

@[simp] theorem workspace_rescue (f : BundleError → α) (x : Action α) (ws : Workspace) :
    (rescue f x ws).workspace = (x ws).workspace := by
  unfold rescue
  rcases x ws with ⟨(_ | _) | _, _, _⟩ <;> rfl

@[simp] theorem log_rescue (f : BundleError → α) (x : Action α) (ws : Workspace) :
    (rescue f x ws).log = (x ws).log := by
  unfold rescue
  rcases x ws with ⟨(_ | _) | _, _, _⟩ <;> rfl

def ReadsOnly (x : Action α) : Prop := ∀ ws, (x ws).workspace = ws

/-- An action whose changes to the workspace are all of one kind, also if it fails. -/
def Changes (kind : Workspace → Workspace → Prop) (x : Action α) : Prop :=
  ∀ ws, kind ws (x ws).workspace

theorem readsOnly_pure (a : α) : ReadsOnly (Pure.pure a : Action α) := fun _ => rfl

theorem readsOnly_ofExcept (r : Except Failure α) : ReadsOnly (ofExcept r) := fun ws => by simp

theorem readsOnly_ofChecked (r : Except BundleError α) :
    ReadsOnly (ofChecked r) := fun ws => by simp

theorem readsOnly_bind {x : Action α} {f : α → Action β} (first : ReadsOnly x)
    (second : ∀ a, ReadsOnly (f a)) : ReadsOnly (x >>= f) := by
  intro ws
  have kept := first ws
  rw [bind_run]
  generalize x ws = outcome at kept ⊢
  rcases outcome with ⟨e | a, after, log⟩
  · exact kept
  · exact (second a after).trans kept

theorem changes_bind_readsOnly {kind : Workspace → Workspace → Prop} (same : ∀ ws, kind ws ws)
    {x : Action α} {f : α → Action β} (first : ReadsOnly x) (second : ∀ a, Changes kind (f a)) :
    Changes kind (x >>= f) := by
  intro ws
  have kept := first ws
  rw [bind_run]
  generalize x ws = outcome at kept ⊢
  rcases outcome with ⟨e | a, after, log⟩
  all_goals
    change after = ws at kept
    subst kept
  · exact same after
  · exact second a after

/-- Changes of a kind that is closed under sequences make up such changes. -/
theorem changes_bind {kind : Workspace → Workspace → Prop}
    (joined : ∀ before between after, kind before between → kind between after → kind before after)
    {x : Action α} {f : α → Action β} (first : Changes kind x) (second : ∀ a, Changes kind (f a)) :
    Changes kind (x >>= f) := by
  intro ws
  have head := first ws
  rw [bind_run]
  generalize x ws = outcome at head ⊢
  rcases outcome with ⟨e | a, between, log⟩
  · exact head
  · exact joined _ _ _ head (second a between)

theorem changes_bind_ofChecked {kind : Workspace → Workspace → Prop} (same : ∀ ws, kind ws ws)
    (r : Except BundleError α) {f : α → Action β} (second : ∀ a, r = .ok a → Changes kind (f a)) :
    Changes kind (ofChecked r >>= f) := by
  intro ws
  cases r with
  | error e => exact same ws
  | ok a => exact second a rfl ws

theorem changes_rescue {kind : Workspace → Workspace → Prop} {x : Action α} (f : BundleError → α)
    (changes : Changes kind x) : Changes kind (rescue f x) := by
  intro ws
  rw [workspace_rescue]
  exact changes ws

section Tells
variable {kind : Log.Entry → Prop}

def Tells (kind : Log.Entry → Prop) (x : Action α) : Prop := ∀ ws, ∀ entry ∈ (x ws).log, kind entry

theorem tells_of_silent {x : Action α} (silent : ∀ ws, (x ws).log = []) : Tells kind x := by
  intro ws entry told
  rw [silent ws] at told
  cases told

theorem tells_ofExcept (r : Except Failure α) : Tells kind (ofExcept r) :=
  tells_of_silent fun ws => by simp

theorem tells_ofChecked (r : Except BundleError α) : Tells kind (ofChecked r) :=
  tells_of_silent fun ws => by simp

theorem tells_tell {level : Log.Level} {source : Log.Source} {message : Text}
    (fits : kind ⟨level, source, message⟩) : Tells kind (tell level source message) := by
  intro ws entry told
  cases List.mem_singleton.mp told
  exact fits

theorem tells_bind {x : Action α} {f : α → Action β} (first : Tells kind x)
    (second : ∀ a, Tells kind (f a)) : Tells kind (x >>= f) := by
  intro ws entry told
  have head := first ws entry
  rw [bind_run] at told
  generalize x ws = outcome at head told
  rcases outcome with ⟨e | a, after, log⟩
  · exact head told
  · rcases List.mem_append.mp told with earlier | later
    · exact head earlier
    · exact second a after entry later

theorem tells_bind_ofChecked (r : Except BundleError α) {f : α → Action β}
    (second : ∀ a, r = .ok a → Tells kind (f a)) : Tells kind (ofChecked r >>= f) := by
  intro ws entry told
  rw [bind_run, ofChecked_run] at told
  cases r with
  | error e => cases told
  | ok a => exact second a rfl ws entry told

theorem tells_rescue {x : Action α} (f : BundleError → α) (tells : Tells kind x) :
    Tells kind (rescue f x) := by
  intro ws entry told
  apply tells ws entry
  rwa [← log_rescue f x ws]

end Tells

section Extends

/-- Where the first of two actions succeeds, the second has the very same outcome. -/
def Extends (x y : Action α) : Prop := ∀ ws a, (x ws).result = .ok a → y ws = x ws

theorem extends_refl (x : Action α) : Extends x x := fun _ _ _ => rfl

theorem extends_of_fails {x : Action α} (fails : ∀ ws a, (x ws).result ≠ .ok a) (y : Action α) :
    Extends x y := by
  intro ws a done
  exact absurd done (fails ws a)

theorem extends_bind {x y : Action α} {f g : α → Action β} (first : Extends x y)
    (second : ∀ a, Extends (f a) (g a)) : Extends (x >>= f) (y >>= g) := by
  intro ws b done
  rw [bind_run] at done
  rw [bind_run, bind_run]
  cases ran : x ws with
  | mk result after log =>
    cases result with
    | error e =>
        rw [ran] at done
        cases done
    | ok a =>
        have same : y ws = ⟨.ok a, after, log⟩ := by
          rw [← ran]
          apply first ws a
          rw [ran]
        rw [ran] at done
        rw [same, Outcome.andThen_ok, Outcome.andThen_ok, second a after b done]

end Extends

end Action
end TensorBundle
