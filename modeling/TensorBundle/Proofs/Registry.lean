import Mathlib
import TensorBundle.Program
import TensorBundle.Proofs.Program.Frame
import TensorBundle.Proofs.Text
import TensorBundle.Proofs.Workspace.Entries
/-!
The registry as a table in which the last write to a type wins, and the check for types without a
handler. After any calls the handler of a type is that of the latest registration for it, if nothing
has taken the type out since. A run ends at the first operation of which the check reports the type,
or in front of it as the operations there end by themselves.
-/
namespace TensorBundle.Registry

inductive Call where
  | register (type : Text) (aliases : List Text) (handler : Handler)
  | unregister (type : Text)
  | clear

def step (r : Registry) : Call → Registry
  | .register type aliases handler => (r.register type aliases handler).1
  | .unregister type => r.unregister type
  | .clear => {}

def run (r : Registry) (calls : List Call) : Registry := calls.foldl step r

def Call.Concerns (type : Text) : Call → Prop
  | .register first aliases _ => type ∈ first :: aliases
  | .unregister other => type = other
  | .clear => True

/-- A handler was registered for a type, and no later call concerns the type. -/
def InForce (type : Text) (calls : List Call) (handler : Handler) : Prop :=
  ∃ earlier first aliases later, calls = earlier ++ .register first aliases handler :: later ∧
    type ∈ first :: aliases ∧ ∀ call ∈ later, ¬ call.Concerns type

section Change
variable (r : Registry) (type other : Text) (handler : Handler)

theorem handler_unregister :
    (r.unregister type).handler? other = if other = type then none else r.handler? other :=
  Workspace.lookup_filter_ne r.entries type other

theorem handler_insert :
    (r.insert type handler).handler? other =
      if other = type then some handler else r.handler? other := by
  have removed := handler_unregister r type other
  unfold handler? at removed
  unfold handler? insert
  rw [List.lookup_append, removed]
  by_cases same : other = type
  · simp [same]
  · simp [same, List.lookup_cons, beq_eq_false_iff_ne.mpr same]

theorem handler_registerAll (types : List Text) :
    (r.registerAll handler types).1.handler? other =
      if other ∈ types then some handler else r.handler? other := by
  induction types generalizing r with
  | nil => simp [registerAll]
  | cons type rest ih =>
      simp only [registerAll]
      rw [ih, handler_insert]
      by_cases later : other ∈ rest
      · simp [later]
      · simp [later]

def Distinct (r : Registry) : Prop := (r.entries.map Prod.fst).Nodup

theorem mem_types_iff : other ∈ r.entries.map Prod.fst ↔ (r.handler? other).isSome = true := by
  rw [handler?, List.lookup_isSome_iff, List.mem_map]
  simp only [beq_iff_eq, eq_comm (a := other)]

theorem distinct_unregister (distinct : r.Distinct) : (r.unregister type).Distinct :=
  distinct.sublist (List.filter_sublist.map Prod.fst)

theorem distinct_insert (distinct : r.Distinct) : (r.insert type handler).Distinct := by
  have gone : type ∉ (r.unregister type).entries.map Prod.fst := by
    rw [mem_types_iff, handler_unregister]
    simp
  unfold Distinct insert
  rw [List.map_append]
  refine List.nodup_append.mpr ⟨distinct_unregister r type distinct, List.nodup_singleton type, ?_⟩
  rintro listed member _ (_ | ⟨_, ⟨⟩⟩) rfl
  exact gone member

theorem distinct_registerAll (distinct : r.Distinct) (types : List Text) :
    (r.registerAll handler types).1.Distinct := by
  induction types generalizing r with
  | nil => exact distinct
  | cons type rest ih => exact ih (r.insert type handler) (distinct_insert r type handler distinct)

end Change

section Step
variable {r : Registry} {type : Text}

theorem step_distinct (distinct : r.Distinct) (call : Call) : (r.step call).Distinct := by
  cases call with
  | register first aliases handler => exact distinct_registerAll r handler distinct _
  | unregister other => exact distinct_unregister r other distinct
  | clear => exact List.nodup_nil

theorem handler_step_other {call : Call} (other : ¬ call.Concerns type) :
    (r.step call).handler? type = r.handler? type := by
  cases call with
  | register first aliases handler =>
      exact (handler_registerAll r type handler (first :: aliases)).trans (if_neg other)
  | unregister gone => exact (handler_unregister r gone type).trans (if_neg other)
  | clear => exact absurd trivial other

theorem handler_step_register {first : Text} {aliases : List Text} (handler : Handler)
    (named : type ∈ first :: aliases) :
    (r.step (.register first aliases handler)).handler? type = some handler :=
  (handler_registerAll r type handler (first :: aliases)).trans (if_pos named)

theorem handler_step_unregister {gone : Text} (same : type = gone) :
    (r.step (.unregister gone)).handler? type = none :=
  (handler_unregister r gone type).trans (if_pos same)

end Step

section Run
variable {type : Text} {calls : List Call} {handler : Handler}

theorem run_concat (r : Registry) (calls : List Call) (call : Call) :
    r.run (calls ++ [call]) = (r.run calls).step call := by
  simp [run]

theorem run_distinct (calls : List Call) : (run {} calls).Distinct := by
  induction calls using List.reverseRecOn with
  | nil => exact List.nodup_nil
  | append_singleton calls call ih =>
      rw [run_concat]
      exact step_distinct ih call

theorem inForce_concat_register {first : Text} {aliases : List Text}
    (named : type ∈ first :: aliases) (calls : List Call) :
    InForce type (calls ++ [.register first aliases handler]) handler :=
  ⟨calls, first, aliases, [], rfl, named, fun _ listed => absurd listed List.not_mem_nil⟩

theorem inForce_concat {call : Call} (inForce : InForce type (calls ++ [call]) handler) :
    (∃ first aliases, call = .register first aliases handler ∧ type ∈ first :: aliases) ∨
      ¬ call.Concerns type ∧ InForce type calls handler := by
  obtain ⟨earlier, first, aliases, later, split, named, untouched⟩ := inForce
  rcases List.eq_nil_or_concat' later with rfl | ⟨others, last, rfl⟩
  · obtain ⟨_, same⟩ := List.append_inj' split rfl
    exact Or.inl ⟨first, aliases, List.head_eq_of_cons_eq same, named⟩
  · rw [← List.cons_append, ← List.append_assoc] at split
    obtain ⟨rfl, same⟩ := List.append_inj' split rfl
    cases List.head_eq_of_cons_eq same
    exact Or.inr ⟨untouched call (by simp), earlier, first, aliases, others, rfl, named,
      fun other listed => untouched other (List.mem_append_left _ listed)⟩

theorem inForce_concat_other {call : Call} (other : ¬ call.Concerns type)
    (inForce : InForce type calls handler) : InForce type (calls ++ [call]) handler := by
  obtain ⟨earlier, first, aliases, later, rfl, named, untouched⟩ := inForce
  refine ⟨earlier, first, aliases, later ++ [call], by simp, named, ?_⟩
  intro last listed
  rcases List.mem_append.mp listed with old | new
  · exact untouched last old
  · rw [List.mem_singleton.mp new]
    exact other

/-- The handler of a type after any calls is the one that is in force. -/
theorem handler_run_iff (type : Text) (calls : List Call) (handler : Handler) :
    (run {} calls).handler? type = some handler ↔ InForce type calls handler := by
  induction calls using List.reverseRecOn with
  | nil =>
      constructor
      · intro found
        cases found
      · rintro ⟨earlier, first, aliases, later, split, _⟩
        cases earlier <;> cases split
  | append_singleton calls call ih =>
      rw [run_concat]
      by_cases concerns : call.Concerns type
      · constructor
        · intro found
          cases call with
          | register first aliases new =>
              rw [handler_step_register new concerns] at found
              cases found
              exact inForce_concat_register concerns calls
          | unregister other =>
              rw [handler_step_unregister concerns] at found
              cases found
          | clear => cases found
        · intro inForce
          rcases inForce_concat inForce with ⟨first, aliases, rfl, named⟩ | ⟨other, _⟩
          · exact handler_step_register handler named
          · exact absurd concerns other
      · rw [handler_step_other concerns, ih]
        constructor
        · exact inForce_concat_other concerns
        · intro inForce
          rcases inForce_concat inForce with ⟨first, aliases, rfl, named⟩ | ⟨_, before⟩
          · exact absurd named concerns
          · exact before

end Run

/-- What can be seen of a registry after calls. -/
structure Shows (calls : List Call) (r : Registry) : Prop where
  found : ∀ type handler, r.find type = .ok handler ↔ InForce type calls handler
  missing : ∀ type e, r.find type = .error e ↔
    (∀ handler, ¬ InForce type calls handler) ∧ e = .unsupported type r.types
  supported : ∀ type, r.isSupported type = true ↔ ∃ handler, r.find type = .ok handler
  increasing : r.types.Pairwise (· < ·)
  listed : ∀ type, type ∈ r.types ↔ r.isSupported type = true
  counted : r.size = r.types.length

theorem find_eq_ok_iff (r : Registry) (type : Text) (handler : Handler) :
    r.find type = .ok handler ↔ r.handler? type = some handler := by
  unfold find
  cases r.handler? type <;> simp

theorem find_eq_error_iff (r : Registry) (type : Text) (e : BundleError) :
    r.find type = .error e ↔ r.handler? type = none ∧ e = .unsupported type r.types := by
  unfold find
  cases r.handler? type <;> simp [eq_comm]

theorem isSupported_iff (r : Registry) (type : Text) :
    r.isSupported type = true ↔ ∃ handler, r.find type = .ok handler := by
  simp only [find_eq_ok_iff]
  exact Option.isSome_iff_exists

theorem shows_run (calls : List Call) : Shows calls (run {} calls) where
  found type handler := by rw [find_eq_ok_iff, handler_run_iff]
  missing type e := by
    rw [find_eq_error_iff, Option.eq_none_iff_forall_ne_some]
    simp only [ne_eq, handler_run_iff]
  supported := isSupported_iff _
  increasing := Text.sorted_increasing (run_distinct calls)
  listed type := by rw [types, Text.mem_sorted, mem_types_iff, isSupported]
  counted := by rw [types, (Text.sorted_perm _).length_eq, List.length_map, size]

/-- After any calls a type has the handler of the latest registration for it that nothing has taken
out since, and none otherwise; the types are listed in strictly increasing order. A call has no
effect on the types that it does not concern. -/
theorem run_shows_latest (calls : List Call) :
    Shows calls (run {} calls) ∧ ∀ call type handler, ¬ Call.Concerns type call →
      ((run {} (calls ++ [call])).find type = .ok handler ↔
        (run {} calls).find type = .ok handler) := by
  refine ⟨shows_run calls, ?_⟩
  intro call type handler other
  rw [run_concat, find_eq_ok_iff, find_eq_ok_iff, handler_step_other other]

end TensorBundle.Registry

namespace TensorBundle

theorem nodup_eraseDups {α : Type} [BEq α] [LawfulBEq α] (xs : List α) : xs.eraseDups.Nodup := by
  match xs with
  | [] => exact List.nodup_nil
  | x :: rest =>
      rw [List.eraseDups_cons, List.nodup_cons]
      refine ⟨?_, nodup_eraseDups _⟩
      simp [List.mem_eraseDups]
termination_by xs.length
decreasing_by exact Nat.lt_succ_of_le (List.length_filter_le _ _)

namespace Program

section Check
variable (p : Program) (registry : Registry)

theorem mem_unsupportedTypes_iff (type : Text) : type ∈ p.unsupportedTypes registry ↔
    (∃ op ∈ p.operations, op.type = type) ∧ registry.handler? type = none := by
  rw [unsupportedTypes, Text.mem_sorted, List.mem_eraseDups, Registry.unsupported, List.mem_filter,
    List.mem_map]
  simp [Registry.isSupported]

theorem unsupportedTypes_increasing : (p.unsupportedTypes registry).Pairwise (· < ·) :=
  Text.sorted_increasing (nodup_eraseDups _)

theorem exists_first_unsupported (reports : p.unsupportedTypes registry ≠ []) :
    ∃ earlier op later, p.operations = earlier ++ op :: later ∧
      op.type ∈ p.unsupportedTypes registry ∧
      ∀ before ∈ earlier, before.type ∉ p.unsupportedTypes registry := by
  obtain ⟨type, reported⟩ := List.exists_mem_of_ne_nil _ reports
  obtain ⟨⟨op, member, rfl⟩, _⟩ := (p.mem_unsupportedTypes_iff registry _).mp reported
  -- The search for an operation goes from the front, so that what it finds is the first one.
  have found : (p.operations.find? fun op =>
      decide (op.type ∈ p.unsupportedTypes registry)).isSome = true :=
    List.find?_isSome.mpr ⟨op, member, decide_eq_true reported⟩
  obtain ⟨first, isFirst⟩ := Option.isSome_iff_exists.mp found
  obtain ⟨concerned, earlier, later, split, others⟩ := List.find?_eq_some_iff_append.mp isFirst
  refine ⟨earlier, first, later, split, of_decide_eq_true concerned, fun before listed => ?_⟩
  simpa using others before listed

end Check

section Run
variable {setting : Setting} {registry : Registry} {ws : Workspace} {op : Operation}

theorem verdict_of_unsupported (missing : registry.handler? op.type = none) :
    verdict setting registry op ws =
      .stops .notImplemented (BundleError.unsupported op.type registry.types).text := by
  rw [verdict, missing]

theorem effect_of_unsupported (missing : registry.handler? op.type = none) :
    effect setting registry op ws = ws := by
  rw [effect, missing]

theorem told_of_unsupported (missing : registry.handler? op.type = none) :
    told setting registry op ws = [announcement op] := by
  rw [told, missing]
  rfl

theorem failFast_append {ops : List Operation} {outcome : Outcome Status}
    (allowed : FailFast setting registry ws ops outcome) (ended : outcome.result ≠ .ok .success)
    (behind : List Operation) : FailFast setting registry ws (ops ++ behind) outcome := by
  cases allowed with
  | completes ops pass => exact absurd rfl ended
  | stops earlier op later code message pass fails =>
      rw [List.append_assoc]
      exact .stops earlier op (later ++ behind) code message pass fails
  | escapes earlier op later fault pass fails =>
      rw [List.append_assoc]
      exact .escapes earlier op (later ++ behind) fault pass fails

variable (setting registry ws) in
/-- How a run ends that has an operation without a handler, by how those in front of it end when
they are run alone: their failure and their fault are those of the run, and where they succeed the
run stops at the operation, with what they have done. -/
inductive Foreseen (earlier : List Operation) (op : Operation) :
    Outcome Status → Outcome Status → Prop where
  | stops (status : Status) (index : Nat) (after : Workspace) (log : List Log.Entry)
      (failed : status.isOk = false) (tagged : status.index = some (index : Int))
      (before : index < earlier.length) :
      Foreseen earlier op ⟨.ok status, after, log⟩ ⟨.ok status, after, log⟩
  | escapes (fault : Fault) (after : Workspace) (log : List Log.Entry) :
      Foreseen earlier op ⟨.error (.fault fault), after, log⟩ ⟨.error (.fault fault), after, log⟩
  | reached (log : List Log.Entry) :
      Foreseen earlier op ⟨.ok .success, effects setting registry earlier ws, log⟩
        ⟨.ok ⟨.notImplemented, (BundleError.unsupported op.type registry.types).text,
            some (earlier.length : Int), some op.type⟩,
          effects setting registry earlier ws,
          log ++ [announcement op, failureEntry earlier.length op
            (BundleError.unsupported op.type registry.types).text]⟩

theorem not_ok_of_foreseen {earlier : List Operation} {alone outcome : Outcome Status}
    (foreseen : Foreseen setting registry ws earlier op alone outcome) {status : Status}
    (ended : outcome.result = .ok status) : status.isOk = false := by
  cases foreseen with
  | stops status index after log failed tagged before =>
      cases ended
      exact failed
  | escapes fault after log => cases ended
  | reached log =>
      cases ended
      rfl

theorem execute_foreseen {p : Program} {earlier later : List Operation}
    (split : p.operations = earlier ++ op :: later) (missing : registry.handler? op.type = none) :
    Foreseen setting registry ws earlier op
      (({ p with operations := earlier } : Program).execute setting registry ws)
      (p.execute setting registry ws) := by
  have alone := failFast_execute setting registry { p with operations := earlier } ws
  generalize ({ p with operations := earlier } : Program).execute setting registry ws = outcome
    at alone ⊢
  dsimp only at alone
  have same (ended : outcome.result ≠ .ok .success) : p.execute setting registry ws = outcome := by
    apply execute_of_failFast
    rw [split]
    exact failFast_append alone ended (op :: later)
  cases alone with
  | completes _ pass =>
      -- Only here is the operation reached.
      rw [execute, split, runFrom_append pass, runFrom_stops (verdict_of_unsupported missing),
        effect_of_unsupported missing, told_of_unsupported missing, Nat.zero_add]
      exact .reached (allTold setting registry earlier ws)
  | stops before failing between code message pass fails =>
      rw [same fun succeeds => by cases succeeds]
      have failed := beq_eq_false_iff_ne.mpr (code_ne_ok_of_stops fails)
      exact .stops _ before.length _ _ failed rfl (by simp)
  | escapes before failing between fault pass fails =>
      rw [same fun succeeds => by cases succeeds]
      exact .escapes fault _ _

theorem started_until_unsupported (setting : Setting) (ws : Workspace) (earlier : List Operation)
    (missing : registry.handler? op.type = none) (later : List Operation) :
    started setting registry (earlier ++ op :: later) ws <+: earlier ++ [op] := by
  rcases first_failure setting registry earlier ws with
    pass | ⟨before, failing, between, rfl, pass, fails⟩
  · rw [started_of_failure pass (by rw [verdict_of_unsupported missing]; nofun)]
  · rw [List.append_assoc, List.cons_append, started_of_failure pass fails]
    exact ⟨between ++ [op], by simp⟩

end Run

/-- A run ends at the first operation that the check concerns, or in front of it: it starts nothing
behind that operation, which has no handler. -/
def EndsByFirst (setting : Setting) (registry : Registry) (p : Program) (ws : Workspace) : Prop :=
  ∃ earlier op later, p.operations = earlier ++ op :: later ∧
    op.type ∈ p.unsupportedTypes registry ∧
    (∀ before ∈ earlier, before.type ∉ p.unsupportedTypes registry) ∧
    registry.handler? op.type = none ∧
    started setting registry p.operations ws <+: earlier ++ [op] ∧
    Foreseen setting registry ws earlier op
      (({ p with operations := earlier } : Program).execute setting registry ws)
      (p.execute setting registry ws)

theorem endsByFirst_of_reports (setting : Setting) {registry : Registry} {p : Program}
    (ws : Workspace) (reports : p.unsupportedTypes registry ≠ []) :
    EndsByFirst setting registry p ws := by
  obtain ⟨earlier, op, later, split, concerned, first⟩ :=
    p.exists_first_unsupported registry reports
  have missing := ((p.mem_unsupportedTypes_iff registry op.type).mp concerned).2
  refine ⟨earlier, op, later, split, concerned, first, missing, ?_,
    execute_foreseen split missing⟩
  rw [split]
  exact started_until_unsupported setting ws earlier missing later

structure Predicted (setting : Setting) (registry : Registry) (p : Program) (ws : Workspace) :
    Prop where
  increasing : (p.unsupportedTypes registry).Pairwise (· < ·)
  reported : ∀ type, type ∈ p.unsupportedTypes registry ↔
    (∃ op ∈ p.operations, op.type = type) ∧ registry.handler? type = none
  notOk : p.unsupportedTypes registry ≠ [] →
    ∀ status, (p.execute setting registry ws).result = .ok status → status.isOk = false
  foreseen : p.unsupportedTypes registry ≠ [] → EndsByFirst setting registry p ws

/-- The check reports each type of the program that has no handler once, in increasing order. Where
it reports any, no run succeeds, and no handler is called for the first operation that is concerned
or behind it: whatever the handlers do and tell, the run is that of the operations in front of it,
up to the failure that names it if all of those pass. -/
theorem unsupportedTypes_predicts (setting : Setting) (registry : Registry) (p : Program)
    (ws : Workspace) : Predicted setting registry p ws where
  increasing := p.unsupportedTypes_increasing registry
  reported := p.mem_unsupportedTypes_iff registry
  notOk reports status ended := by
    obtain ⟨earlier, op, later, _, _, _, _, _, run⟩ := endsByFirst_of_reports setting ws reports
    exact not_ok_of_foreseen run ended
  foreseen reports := endsByFirst_of_reports setting ws reports

example : ({ operations := [⟨"Relu", [], [], []⟩, ⟨"Conv", [], [], []⟩, ⟨"Pool", [], [], []⟩,
    ⟨"Relu", [], [], []⟩] } : Program).unsupportedTypes .builtIn =
      (["Pool", "Relu"] : List Text) := by
  cbv

end Program
end TensorBundle
