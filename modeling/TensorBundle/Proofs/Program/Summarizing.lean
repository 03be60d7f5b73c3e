import Mathlib
import TensorBundle.Program
import TensorBundle.Proofs.Action
import TensorBundle.Proofs.Text
import TensorBundle.Proofs.Workspace.Entries
import TensorBundle.Proofs.Workspace.Getting
/-!
The summary of whatever workspace callers bring about, and that of a program with it. It has an
entry for each stored name, in the order of their code points. A handle that was released while it
was stored states no dimensions, and there is no summary as long as it is there.
-/
namespace TensorBundle.Workspace

/-- Every stored handle states its dimensions. -/
def Stated (ws : Workspace) : Prop :=
  ∀ name id, ws.number? name = some id →
    ∃ dimensions, (ws.handle id).dimensions? = some dimensions

theorem stated_of_sound {ws : Workspace} (sound : ws.Sound) : ws.Stated := by
  intro name id stored
  obtain ⟨t, held, _⟩ := sound.stored name id stored
  rw [held]
  exact ⟨_, rfl⟩

theorem mem_names_iff (ws : Workspace) (name : Text) :
    name ∈ ws.names ↔ ws.contains name = true := by
  rw [names, Text.mem_sorted, mem_keys_iff]

theorem number_of_mem_names {ws : Workspace} {name : Text} (member : name ∈ ws.names) :
    ∃ id, ws.number? name = some id := by
  exact Option.isSome_iff_exists.mp ((mem_names_iff ws name).mp member)

theorem exists_summaryLine {ws : Workspace} (stated : ws.Stated) {name : Text}
    (member : name ∈ ws.names) :
    ∃ line, summaryLine name (((ws.number? name).map ws.handle).getD .empty) = .ok line := by
  obtain ⟨id, stored⟩ := number_of_mem_names member
  obtain ⟨dimensions, states⟩ := stated name id stored
  rw [stored, Option.map_some, Option.getD_some, summaryLine, states]
  exact ⟨_, rfl⟩

theorem exists_summary {ws : Workspace} (stated : ws.Stated) : ∃ text, ws.summary = .ok text := by
  obtain ⟨lines, shown⟩ := exists_mapM fun _ member => exists_summaryLine stated member
  refine ⟨Text.lines ("Workspace:" :: lines), ?_⟩
  rw [summary, shown]
  rfl

end TensorBundle.Workspace

namespace TensorBundle

namespace Tensor

def shown (type : DataType) (x : Binary) : Text :=
  match type with
  | .char => Text.integer (x.truncate?.getD 0)
  | _ => Decimal.plainStyle.render Binary.double (Binary.double.round x)

theorem groups_of_pos {size : Nat} (positive : 0 < size) {bytes : List UInt8}
    (some : bytes ≠ []) : ∃ rest, groups size bytes = bytes.take size :: rest := by
  cases bytes with
  | nil => exact absurd rfl some
  | cons b bytes =>
      obtain ⟨k, rfl⟩ := Nat.exists_eq_add_one.mpr positive
      rw [groups, List.take_succ_cons, Nat.add_sub_cancel]
      exact ⟨_, rfl⟩

theorem firstElement_of_data {t : Tensor} (complete : t.IsSound) (data : 0 ∉ t.shape) :
    ∃ x rest, t.elements = x :: rest ∧ t.firstElement? = some (shown t.type x) := by
  have positive : 0 < t.type.size := by cases t.type <;> decide
  have filled : numel t.shape ≠ 0 := by
    rw [numel_eq_prod, Ne, List.prod_eq_zero_iff]
    exact data
  have bytes : t.bytes ≠ [] := by
    rw [Ne, ← List.length_eq_zero_iff, complete, byteCount]
    exact (Nat.mul_pos (Nat.pos_of_ne_zero filled) positive).ne'
  obtain ⟨rest, first⟩ := groups_of_pos positive bytes
  refine ⟨t.type.decode (t.bytes.take t.type.size), rest.map t.type.decode, ?_, ?_⟩
  · rw [elements, first, List.map_cons]
  · rw [firstElement?, if_neg filled]
    rfl

theorem firstElement_of_blank {t : Tensor} (blank : 0 ∈ t.shape) : t.firstElement? = none := by
  rw [firstElement?, numel_eq_prod, if_pos (List.prod_eq_zero_iff.mpr blank)]

end Tensor

namespace Workspace
variable {ws : Workspace}

def heading (name : Text) (shape : Shape) : Text :=
  "\t" ++ name ++ ": [" ++ Text.join " " (shape.map Text.natural) ++ "] "

/-- The entry of a tensor in a summary. -/
inductive Entry (name : Text) (t : Tensor) : Text → Prop where
  | blank (zero : 0 ∈ t.shape) : Entry name t (heading name t.shape ++ "<No Data>")
  | filled (x : Binary) (rest : List Binary) (data : 0 ∉ t.shape) (first : t.elements = x :: rest) :
      Entry name t (heading name t.shape ++ (Tensor.shown t.type x ++ " ..."))

/-- A text is a summary: below the title each name has the entry of its tensor. -/
def Summarizes (ws : Workspace) (text : Text) : Prop :=
  ∃ entries, text = Text.lines ("Workspace:" :: entries) ∧
    List.Forall₂ (fun name entry => ∃ id t, ws.Gives name id t ∧ Entry name t entry)
      ws.names entries

theorem entry_of_summaryLine {name : Text} {t : Tensor} {line : Text} (complete : t.IsSound)
    (shown : summaryLine name (.holding t) = .ok line) : Entry name t line := by
  have dimensions : (t.shape.map Int.ofNat).map Text.integer = t.shape.map Text.natural := by
    rw [List.map_map]
    rfl
  simp only [summaryLine, Handle.dimensions?, Handle.tensor?, Option.bind_some, dimensions,
    Except.ok.injEq] at shown
  subst shown
  by_cases blank : 0 ∈ t.shape
  · rw [Tensor.firstElement_of_blank blank]
    exact .blank blank
  · obtain ⟨x, rest, first, element⟩ := Tensor.firstElement_of_data complete blank
    rw [element]
    exact .filled x rest blank first

/-- A handle that holds a tensor has a line, and any other one of a tidy workspace has none. -/
theorem summaryLine_cases (tidy : ws.Tidy) {name : Text} {id : Nat}
    (stored : ws.number? name = some id) :
    (∃ t, ws.Gives name id t) ∨
      ws.Hollow name ∧ summaryLine name (ws.handle id) = .error .missingDimensions := by
  cases empty : (ws.handle id).isEmpty with
  | false =>
      obtain ⟨t, held⟩ := (Handle.not_isEmpty_iff (ws.handle id)).mp empty
      exact Or.inl ⟨t, (gives_iff ws name id t).mpr ⟨stored, held⟩⟩
  | true =>
      refine Or.inr ⟨⟨id, stored, empty⟩, ?_⟩
      rw [tidy.plain id empty]
      rfl

theorem entry_of_line (orderly : ws.Orderly) (tidy : ws.Tidy) (name line : Text)
    (shown : summaryLine name (((ws.number? name).map ws.handle).getD .empty) = .ok line) :
    ∃ id t, ws.Gives name id t ∧ Entry name t line := by
  cases stored : ws.number? name with
  | none =>
      rw [stored] at shown
      cases shown
  | some id =>
      rw [stored, Option.map_some, Option.getD_some] at shown
      rcases summaryLine_cases tidy stored with ⟨t, gives⟩ | ⟨_, none⟩
      · have held := ((gives_iff ws name id t).mp gives).2
        rw [held] at shown
        exact ⟨id, t, gives, entry_of_summaryLine (orderly.complete id t held) shown⟩
      · cases none.symm.trans shown

theorem summarizes_of_summary (orderly : ws.Orderly) (tidy : ws.Tidy) {text : Text}
    (shown : ws.summary = .ok text) : ws.Summarizes text := by
  obtain ⟨lines, each, same⟩ := bind_eq_ok shown
  cases same
  exact ⟨lines, rfl, ((mapM_eq_ok_iff _ _ _).mp each).imp (entry_of_line orderly tidy)⟩

theorem hollow_of_no_summary (tidy : ws.Tidy) {fault : Fault}
    (failed : ws.summary = .error fault) :
    fault = .missingDimensions ∧ ∃ name, ws.Hollow name := by
  rcases bind_eq_error failed with each | ⟨_, _, done⟩
  · obtain ⟨name, member, fails⟩ := exists_of_mapM_error each
    obtain ⟨id, stored⟩ := number_of_mem_names member
    rw [stored, Option.map_some, Option.getD_some] at fails
    rcases summaryLine_cases tidy stored with ⟨t, gives⟩ | ⟨hollow, none⟩
    · rw [((gives_iff ws name id t).mp gives).2] at fails
      cases fails
    · exact ⟨Except.error.inj (fails.symm.trans none), name, hollow⟩
  · cases done

theorem not_hollow_of_summarizes {text : Text} (summarizes : ws.Summarizes text) (name : Text) :
    ¬ ws.Hollow name := by
  rintro ⟨id, stored, empty⟩
  obtain ⟨entries, _, each⟩ := summarizes
  have member : name ∈ ws.names :=
    (mem_names_iff ws name).mpr (Option.isSome_iff_exists.mpr ⟨id, stored⟩)
  obtain ⟨k, known, rfl⟩ := List.getElem_of_mem member
  obtain ⟨other, t, gives, _⟩ := each.get known (each.length_eq ▸ known)
  obtain ⟨again, held⟩ := (gives_iff ws _ other t).mp gives
  cases stored.symm.trans again
  rw [held] at empty
  cases empty

/-- What there is to know of the summary of a workspace and of that of a program with it. -/
structure Summarized (ws : Workspace) : Prop where
  increasing : ws.names.Pairwise (· < ·)
  complete : ∀ name, name ∈ ws.names ↔ ws.contains name = true
  succeeds : (∃ text, ws.summary = .ok text) ↔ ∀ name, ¬ ws.Hollow name
  tells : ∀ text, ws.summary = .ok text → ws.Summarizes text
  fails : ∀ fault, ws.summary = .error fault → fault = .missingDimensions
  program : ∀ p : Program, p.summary (some ws) =
    ws.summary.map fun text => Text.lines [p.dump (some Program.summaryIndent), text]

end Workspace
end TensorBundle
