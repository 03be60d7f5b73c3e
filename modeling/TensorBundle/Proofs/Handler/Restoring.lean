import Mathlib
import TensorBundle.FileTree
import TensorBundle.Proofs.Handler.Locality
import TensorBundle.Proofs.Operation.Accessors
import TensorBundle.Proofs.Workspace.Getting
/-!
Which bytes a tensor has once it was loaded. Those that the file gives come first. Where it gives
too few, the strict policy takes the tensor back, and the lenient one leaves what the tensor had.
-/
namespace TensorBundle

namespace Workspace

/-- The tensor under a name, if it is of a type and shape, has only zeros from an offset on. -/
def ZeroFrom (ws : Workspace) (name : Text) (type : DataType) (shape : Shape) (offset : Nat) :
    Prop :=
  ∀ t, ws.tensor? name = some t → t.type = type → t.shape = shape → ∀ b ∈ t.bytes.drop offset, b = 0

section Obtained
variable {ws after : Workspace} {name : Text} {type : DataType} {shape : Shape} {id : Nat}

theorem size_of_obtained (orderly : ws.Orderly)
    (obtained : Obtained name type shape ws (.ok id) after) {t : Tensor}
    (held : after.handle id = .holding t) :
    t.type = type ∧ t.shape = shape ∧ t.bytes.length = Tensor.byteCount type shape := by
  obtain ⟨_, other, holding, rfl, rfl⟩ := obtained_holds obtained
  cases holding.symm.trans held
  exact ⟨rfl, rfl, (effect_orderly (obtained_effect obtained) orderly).complete id t held⟩

theorem number_of_obtained (orderly : ws.Orderly)
    (obtained : Obtained name type shape ws (.ok id) after) :
    ws.number? name = some id ↔ ∃ old, ws.Holds name type shape old := by
  cases obtained with
  | found _ holds => exact ⟨fun _ => ⟨id, holds⟩, fun _ => holds.1⟩
  | made missing _ =>
      constructor
      · intro stored
        exact absurd (orderly.known name _ stored) (lt_irrefl _)
      · rintro ⟨old, holds⟩
        exact absurd holds (missing old)

theorem gives_of_obtained (obtained : Obtained name type shape ws (.ok id) after) (new : Tensor) :
    (after.putHandle id (.holding new)).Gives name id new := by
  obtain ⟨stored, t, held, _⟩ := obtained_holds obtained
  exact (gives_iff _ name id new).mpr
    ⟨stored, handle_putHandle_self after id _ (lt_of_holding after id t held)⟩

theorem gained_cases {t : Tensor}
    (gain : gained ws.room type shape (ws.content? name) = some t) :
    (ws.tensor? name = some t ∧ t.type = type ∧ t.shape = shape) ∨
      ((∀ old, ws.tensor? name = some old → ¬ (old.type = type ∧ old.shape = shape)) ∧
        t = .zeros type shape) := by
  rw [gained, ← tensor_eq_content] at gain
  cases like : (ws.tensor? name).filter fun t => t.type = type ∧ t.shape = shape with
  | some old =>
      rw [like] at gain
      cases gain
      obtain ⟨there, fits⟩ := Option.filter_eq_some_iff.mp like
      exact Or.inl ⟨there, of_decide_eq_true fits⟩
  | none =>
      rw [like, Option.none_or] at gain
      split at gain
      · cases gain
        refine Or.inr ⟨fun old found fits => ?_, rfl⟩
        exact Option.filter_eq_none_iff.mp like old found (decide_eq_true fits)
      · cases gain

theorem zero_of_gained {t : Tensor}
    (gain : gained ws.room type shape (ws.content? name) = some t) (offset : Nat) :
    (∀ b ∈ t.bytes.drop offset, b = 0) ↔ ws.ZeroFrom name type shape offset := by
  rcases gained_cases gain with ⟨there, sameType, sameShape⟩ | ⟨unlike, rfl⟩
  · constructor
    · intro zeros old found _ _
      cases there.symm.trans found
      exact zeros
    · intro zeros
      exact zeros t there sameType sameShape
  · constructor
    · intro _ old found sameType sameShape
      exact absurd ⟨sameType, sameShape⟩ (unlike old found)
    · intro _ b member
      exact List.eq_of_mem_replicate (List.mem_of_mem_drop member)

theorem eq_of_gained {t old : Tensor}
    (gain : gained ws.room type shape (ws.content? name) = some t)
    (there : ws.tensor? name = some old) (sameType : old.type = type)
    (sameShape : old.shape = shape) : t = old := by
  rcases gained_cases gain with ⟨found, _⟩ | ⟨unlike, _⟩
  · cases found.symm.trans there
    rfl
  · exact absurd ⟨sameType, sameShape⟩ (unlike old there)

end Obtained

end Workspace

namespace Handler

namespace LoadRequest

/-- An operation declares the tensor that it loads: by the name of its output and by the fields for
the file, for the type of the elements and for the dimensions. -/
structure DeclaredBy (op : Operation) (r : LoadRequest) : Prop where
  output : op.outputs.head? = some r.name
  file : op.get? "fileName" = some (.text r.file)
  type : (op.get? "dataType" = some (.text "single") ∧ r.type = .float32) ∨
    (op.get? "dataType" = some (.text "double") ∧ r.type = .float64)
  shape : ∃ document, op.get? "shape" = some document ∧ document.GivesInts (r.shape.map Int.ofNat)

theorem ofOperation_of_declared {op : Operation} {r : LoadRequest} (declared : DeclaredBy op r) :
    ofOperation op = .ok r := by
  have output := (op.output_zero_iff r.name).mpr declared.output
  have file := (op.getText_eq_ok_iff "fileName" r.file).mpr declared.file
  have shape := (op.getShape_eq_ok_iff "shape" r.shape).mpr declared.shape
  have type : op.getDataType "dataType" none = .ok r.type := by
    rw [Operation.getDataType_eq_ok_iff]
    rcases declared.type with ⟨word, same⟩ | ⟨word, same⟩
    · exact ⟨_, word, (DataType.ofManifest_eq_some_iff _ _).mpr (Or.inl ⟨rfl, same⟩)⟩
    · exact ⟨_, word, (DataType.ofManifest_eq_some_iff _ _).mpr (Or.inr ⟨rfl, same⟩)⟩
  rw [ofOperation, output, file, type, shape]
  rfl

def byteCount (r : LoadRequest) : Nat := Tensor.byteCount r.type r.shape

/-- The bytes that a file gives to the tensor of a request; one that cannot be opened gives none. -/
def given (r : LoadRequest) (setting : Setting) (ws : Workspace) : List UInt8 :=
  match setting.files.bytes (ws.resolve r.file) with
  | .ok bytes => bytes.take r.byteCount
  | .error _ => []

/-- A request is to be carried out: its shape has no zero dimension and can be had, its output is
not there or has to be loaded again, and its file has the name of a path. -/
structure Due (setting : Setting) (ws : Workspace) (r : LoadRequest) : Prop where
  positive : ∀ d ∈ r.shape, 0 < d
  room : (∃ id, ws.Holds r.name r.type r.shape id) ∨
    Tensor.canAllocate ws.available.tensor r.type r.shape = true
  wanted : ws.contains r.name = true → setting.config.forceReload = true
  namable : Path.fault? (ws.resolve r.file) = none

end LoadRequest

section Load
variable {setting : Setting} {op : Operation} {ws : Workspace} {r : LoadRequest}

/-- What comes of a request that is due: an error of the strict policy, or a tensor that starts with
what the file gives and has been obtained before. -/
inductive Fetched (setting : Setting) (ws : Workspace) (r : LoadRequest) :
    Except Failure (Option Status) → Workspace → Prop where
  | unopened (e : OpenError) (closed : setting.files.bytes (ws.resolve r.file) = .error e)
      (strict : setting.config.strictResources = true) :
      Fetched setting ws r (.error (.error
        (.resource (.tensorUnreadable e.reason) (some (ws.resolve r.file)) none none))) ws
  | short (bytes : List UInt8) (after : Workspace)
      (opened : setting.files.bytes (ws.resolve r.file) = .ok bytes)
      (strict : setting.config.strictResources = true) (cut : bytes.length < r.byteCount)
      (drops : ws.DropsEntry r.name after) :
      Fetched setting ws r (.error (.error (.resource (.tensorTooShort r.name)
        (some (ws.resolve r.file)) (some r.byteCount) (some bytes.length)))) after
  | filled (start : Tensor) (id : Nat) (after : Workspace)
      (gain : Workspace.gained ws.room r.type r.shape (ws.content? r.name) = some start)
      (size : start.bytes.length = r.byteCount)
      (same : ws.number? r.name = some id ↔ ∃ old, ws.Holds r.name r.type r.shape old)
      (enough : setting.config.strictResources = true →
        ∃ bytes, setting.files.bytes (ws.resolve r.file) = .ok bytes ∧ r.byteCount ≤ bytes.length)
      (gives : after.Gives r.name id ⟨r.type, r.shape,
        r.given setting ws ++ start.bytes.drop (r.given setting ws).length⟩) :
      Fetched setting ws r (.ok (some .success)) after

theorem isViewable_of_due (due : r.Due setting ws) : Handle.isViewable r.shape = true := by
  by_contra flat
  have zero := ((isViewable_eq_false_iff r.shape).mp (Bool.eq_false_iff.mpr flat)).2
  exact absurd (due.positive 0 zero) (lt_irrefl 0)

theorem given_of_opened {bytes : List UInt8}
    (opened : setting.files.bytes (ws.resolve r.file) = .ok bytes) :
    r.given setting ws = bytes.take r.byteCount := by
  rw [LoadRequest.given, opened]

theorem filledWith_eq {start : Tensor} {bytes : List UInt8}
    (opened : setting.files.bytes (ws.resolve r.file) = .ok bytes)
    (sized : start.type = r.type ∧ start.shape = r.shape ∧ start.bytes.length = r.byteCount) :
    filledWith start bytes = ⟨r.type, r.shape,
      r.given setting ws ++ start.bytes.drop (r.given setting ws).length⟩ := by
  obtain ⟨type, shape, size⟩ := sized
  rw [given_of_opened opened, filledWith, Tensor.overwrite, size, type, shape, List.take_zero,
    List.nil_append, Nat.zero_add]

theorem fetched_of_filled {bytes : List UInt8} {id : Nat} {between : Workspace} {start : Tensor}
    (orderly : ws.Orderly) (opened : setting.files.bytes (ws.resolve r.file) = .ok bytes)
    (obtained : Workspace.Obtained r.name r.type r.shape ws (.ok id) between)
    (held : between.handle id = .holding start)
    (enough : setting.config.strictResources = true → r.byteCount ≤ bytes.length) :
    Fetched setting ws r (.ok (some .success))
      (between.putHandle id (.holding (filledWith start bytes))) := by
  have sized := Workspace.size_of_obtained orderly obtained held
  rw [filledWith_eq opened sized]
  exact .filled start id _ (Workspace.gained_of_obtained obtained held) sized.2.2
    (Workspace.number_of_obtained orderly obtained) (fun strict => ⟨bytes, opened, enough strict⟩)
    (Workspace.gives_of_obtained obtained _)

theorem load_fetched (orderly : ws.Orderly) (request : LoadRequest.ofOperation op = .ok r)
    (due : r.Due setting ws) :
    Fetched setting ws r (load setting op ws).result (load setting op ws).workspace := by
  have loaded := load_loaded setting op ws
  generalize (load setting op ws).result = result,
    (load setting op ws).workspace = after at loaded ⊢
  cases loaded with
  -- A request that is due is none that is malformed, kept, without a path, refused or unviewable.
  | malformed e bad =>
      rw [request] at bad
      cases bad
  | kept _ again there =>
      cases request.symm.trans again
      rw [isKept_of_wanted due.wanted] at there
      cases there
  | unnamable _ fault again _ noPath =>
      cases request.symm.trans again
      rw [due.namable] at noPath
      cases noPath
  | unopened _ e again _ closed strict =>
      cases request.symm.trans again
      exact .unopened e closed strict
  | blank _ e made after again _ closed lenient obtained =>
      cases request.symm.trans again
      obtain ⟨id, rfl⟩ := (Workspace.obtained_ok_iff obtained).mpr due.room
      obtain ⟨stored, start, held, _⟩ := Workspace.obtained_holds obtained
      obtain ⟨type, shape, size⟩ := Workspace.size_of_obtained orderly obtained held
      have none : r.given setting ws = [] := by rw [LoadRequest.given, closed]
      refine .filled start id after (Workspace.gained_of_obtained obtained held) size
        (Workspace.number_of_obtained orderly obtained) ?_ ?_
      · intro strict
        rw [lenient] at strict
        cases strict
      · rw [none, List.nil_append, List.length_nil, List.drop_zero, ← type, ← shape]
        exact (Workspace.gives_iff after r.name id start).mpr ⟨stored, held⟩
  | refused _ bytes failure _ again _ opened obtained =>
      cases request.symm.trans again
      obtain ⟨id, impossible⟩ := (Workspace.obtained_ok_iff obtained).mpr due.room
      cases impossible
  | unviewable _ bytes id _ again _ opened obtained flat =>
      cases request.symm.trans again
      rw [isViewable_of_due due] at flat
      cases flat
  | filled _ bytes id between start again _ opened obtained held _ enough =>
      cases request.symm.trans again
      exact fetched_of_filled orderly opened obtained held fun _ =>
        enough.trans (min_le_right _ _)
  | short _ bytes id between start again _ opened obtained held _ _ lenient =>
      cases request.symm.trans again
      apply fetched_of_filled orderly opened obtained held
      intro strict
      rw [lenient] at strict
      cases strict
  | withdrawn _ bytes id between start again _ opened obtained held _ cut strict =>
      cases request.symm.trans again
      obtain ⟨_, _, size⟩ := Workspace.size_of_obtained orderly obtained held
      rw [size] at cut ⊢
      -- The tensor has room for the whole file, so that all of it was read.
      have all : min r.byteCount bytes.length = bytes.length := by
        unfold LoadRequest.byteCount
        omega
      have effect := Workspace.obtained_put_remove_effect obtained _ (filled_complete bytes held)
      have drops := Workspace.dropsEntry_of_effect effect orderly
        (Workspace.number_remove_self _ r.name)
      change Fetched setting ws r (.error (.error (.resource _ _ _
        (some (min r.byteCount bytes.length : Nat))))) _
      rw [all]
      exact .short bytes _ opened strict (all ▸ cut) drops

/-- What the strict policy makes of a request that is due. -/
structure Reproduces (setting : Setting) (ws : Workspace) (r : LoadRequest)
    (outcome : Outcome (Option Status)) : Prop where
  succeeds : outcome.result = .ok (some .success) ↔
    ∃ bytes, setting.files.bytes (ws.resolve r.file) = .ok bytes ∧ r.byteCount ≤ bytes.length
  contents : ∀ bytes, setting.files.bytes (ws.resolve r.file) = .ok bytes →
    r.byteCount ≤ bytes.length → ∃ id,
      outcome.workspace.Gives r.name id ⟨r.type, r.shape, bytes.take r.byteCount⟩ ∧
        (ws.number? r.name = some id ↔ ∃ old, ws.Holds r.name r.type r.shape old)
  unopened : ∀ e, setting.files.bytes (ws.resolve r.file) = .error e →
    outcome.result = .error (.error
      (.resource (.tensorUnreadable e.reason) (some (ws.resolve r.file)) none none)) ∧
      outcome.workspace = ws
  short : ∀ bytes, setting.files.bytes (ws.resolve r.file) = .ok bytes →
    bytes.length < r.byteCount →
      outcome.result = .error (.error (.resource (.tensorTooShort r.name)
        (some (ws.resolve r.file)) (some r.byteCount) (some bytes.length))) ∧
      ws.DropsEntry r.name outcome.workspace

/-- Under the strict policy a tensor is loaded exactly if the file can be opened and has bytes
enough, and then it has the first bytes of the file, whatever was there before, in the old handle
exactly if that held a tensor of the type and shape. A file that cannot be opened leaves the
workspace as it was, and one that is too short leaves nothing under the name. -/
theorem load_reproduces (reachable : ws.Reachable)
    (strict : setting.config.strictResources = true) (declared : r.DeclaredBy op)
    (due : r.Due setting ws) : Reproduces setting ws r (load setting op ws) := by
  have fetched := load_fetched (Workspace.orderly_of_reachable reachable)
    (LoadRequest.ofOperation_of_declared declared) due
  generalize load setting op ws = outcome at fetched
  obtain ⟨result, after, log⟩ := outcome
  dsimp only at fetched
  cases fetched with
  | unopened e closed _ =>
      constructor <;> simp [closed]
  | short bytes after opened _ cut drops =>
      constructor <;> simp [opened, cut, drops, not_le.mpr cut]
  | filled start id after gain size same enough gives =>
      obtain ⟨bytes, opened, long⟩ := enough strict
      have length : (bytes.take r.byteCount).length = r.byteCount := by
        rw [List.length_take]
        omega
      rw [given_of_opened opened, length, List.drop_of_length_le size.le, List.append_nil] at gives
      constructor
      · exact ⟨fun _ => ⟨bytes, opened, long⟩, fun _ => rfl⟩
      · intro other found _
        cases opened.symm.trans found
        exact ⟨id, gives, same⟩
      · intro e closed
        cases opened.symm.trans closed
      · intro other found cut
        cases opened.symm.trans found
        omega

theorem load_reproduces_long :
    let ws := ((Session.start [] []).moves
      [.call (.get "x" (some .float32) (some (.array [.int 2])))]).workspace
    let setting : Setting := ⟨{ forceReload := true }, .ofContents fun _ => .ok [1, 2, 3, 4, 5]⟩
    let op : Operation :=
      { type := "Load", outputs := ["x"],
        fields := [("fileName", .text "x.bin"), ("dataType", .text "single"), ("shape", .int 1)] }
    ws.Reachable ∧ ws.number? "x" = some 0 ∧
      (load setting op ws).result = .ok (some .success) ∧
      ∃ id ≠ 0, (load setting op ws).workspace.Gives "x" id ⟨.float32, [1], [1, 2, 3, 4]⟩ := by
  intro ws setting op
  have reachable : ws.Reachable := ⟨[], [], _, rfl⟩
  have stored : ws.number? "x" = some 0 := by decide +kernel
  have missing : ¬ ∃ old, ws.Holds "x" .float32 [1] old := by
    rintro ⟨old, number, t, held, _, shape⟩
    cases stored.symm.trans number
    have holding : ws.handle 0 = .holding (.zeros .float32 [2]) := by decide +kernel
    cases holding.symm.trans held
    cases shape
  let r : LoadRequest := ⟨"x", "x.bin", .float32, [1]⟩
  have declared : r.DeclaredBy op :=
    ⟨rfl, rfl, Or.inl ⟨rfl, rfl⟩, .int 1, rfl, Or.inr ⟨1, rfl, rfl⟩⟩
  have due : r.Due setting ws :=
    ⟨by decide, Or.inr (by decide +kernel), fun _ => rfl, by decide +kernel⟩
  have reproduces := load_reproduces reachable rfl declared due
  obtain ⟨id, gives, same⟩ := reproduces.contents [1, 2, 3, 4, 5] rfl (by decide)
  refine ⟨reachable, stored, reproduces.succeeds.mpr ⟨_, rfl, by decide⟩, id, ?_, gives⟩
  rintro rfl
  exact missing (same.mp stored)

theorem fetched_lenient {result : Except Failure (Option Status)} {after : Workspace}
    (fetched : Fetched setting ws r result after)
    (lenient : setting.config.strictResources = false) :
    result = .ok (some .success) ∧ ∃ start id,
      Workspace.gained ws.room r.type r.shape (ws.content? r.name) = some start ∧
      start.bytes.length = r.byteCount ∧ after.Gives r.name id ⟨r.type, r.shape,
        r.given setting ws ++ start.bytes.drop (r.given setting ws).length⟩ := by
  cases fetched with
  | unopened e _ strict =>
      rw [lenient] at strict
      cases strict
  | short bytes _ _ strict _ _ =>
      rw [lenient] at strict
      cases strict
  | filled start id _ gain size _ _ gives => exact ⟨rfl, start, id, gain, size, gives⟩

/-- Under the lenient policy a request that is due always succeeds. Its tensor starts with what the
file gives. Behind that it has the bytes of the tensor of the type and shape that was there, if
there was one, and so it has zeros there exactly if that had. -/
theorem load_lenient (reachable : ws.Reachable)
    (lenient : setting.config.strictResources = false) (declared : r.DeclaredBy op)
    (due : r.Due setting ws) :
    (load setting op ws).result = .ok (some .success) ∧ ∃ id rest,
      (load setting op ws).workspace.Gives r.name id
        ⟨r.type, r.shape, r.given setting ws ++ rest⟩ ∧
      rest.length = r.byteCount - (r.given setting ws).length ∧
      (∀ old, ws.tensor? r.name = some old → old.type = r.type → old.shape = r.shape →
        rest = old.bytes.drop (r.given setting ws).length) ∧
      (rest = List.replicate (r.byteCount - (r.given setting ws).length) 0 ↔
        ws.ZeroFrom r.name r.type r.shape (r.given setting ws).length) := by
  have fetched := load_fetched (Workspace.orderly_of_reachable reachable)
    (LoadRequest.ofOperation_of_declared declared) due
  obtain ⟨done, start, id, gain, size, gives⟩ := fetched_lenient fetched lenient
  have length : (start.bytes.drop (r.given setting ws).length).length =
      r.byteCount - (r.given setting ws).length := by
    rw [List.length_drop, size]
  refine ⟨done, id, _, gives, length, ?_, ?_⟩
  · intro old there sameType sameShape
    rw [Workspace.eq_of_gained gain there sameType sameShape]
  · rw [← Workspace.zero_of_gained gain, List.eq_replicate_iff, and_iff_right length]

theorem load_lenient_half :
    let ws := (Session.start [] []).workspace
    let setting : Setting := ⟨{ strictResources := false }, .ofContents fun _ => .ok [1, 2]⟩
    let op : Operation :=
      { type := "Load", outputs := ["x"],
        fields := [("fileName", .text "x.bin"), ("dataType", .text "single"), ("shape", .int 1)] }
    ws.Reachable ∧ (load setting op ws).result = .ok (some .success) ∧
      ∃ id, (load setting op ws).workspace.Gives "x" id ⟨.float32, [1], [1, 2, 0, 0]⟩ := by
  intro ws setting op
  have reachable : ws.Reachable := ⟨[], [], [], rfl⟩
  let r : LoadRequest := ⟨"x", "x.bin", .float32, [1]⟩
  have declared : r.DeclaredBy op :=
    ⟨rfl, rfl, Or.inl ⟨rfl, rfl⟩, .int 1, rfl, Or.inr ⟨1, rfl, rfl⟩⟩
  have due : r.Due setting ws :=
    ⟨by decide, Or.inr (by decide +kernel), nofun, by decide +kernel⟩
  obtain ⟨done, id, rest, gives, _, _, zeros⟩ := load_lenient reachable rfl declared due
  have blank : rest = [0, 0] := zeros.mpr nofun
  rw [blank] at gives
  exact ⟨reachable, done, id, gives⟩

/-- A tensor was loaded, and it is loaded again when its file is gone: it keeps the old bytes. -/
theorem load_lenient_stale :
    let config : Config := { strictResources := false, forceReload := true }
    let op : Operation :=
      { type := "Load", outputs := ["x"],
        fields := [("fileName", .text "x.bin"), ("dataType", .text "single"), ("shape", .int 1)] }
    let ws := ((Session.start [] []).moves
      [.call (.handle .load ⟨config, .ofContents fun _ => .ok [1, 2, 3, 4]⟩ op)]).workspace
    let setting : Setting := ⟨config, .ofContents fun _ => .error .notFound⟩
    let r : LoadRequest := ⟨"x", "x.bin", .float32, [1]⟩
    ws.Reachable ∧ r.DeclaredBy op ∧ r.Due setting ws ∧
      (load setting op ws).result = .ok (some .success) ∧
      (load setting op ws).workspace.Gives "x" 0 ⟨.float32, [1], [1, 2, 3, 4]⟩ := by
  intro config op ws setting r
  have declared : r.DeclaredBy op :=
    ⟨rfl, rfl, Or.inl ⟨rfl, rfl⟩, .int 1, rfl, Or.inr ⟨1, rfl, rfl⟩⟩
  have due : r.Due setting ws :=
    ⟨by decide, Or.inr (by decide +kernel), fun _ => rfl, by decide +kernel⟩
  have reachable : ws.Reachable := ⟨[], [], _, rfl⟩
  have fetched := load_fetched (Workspace.orderly_of_reachable reachable)
    (LoadRequest.ofOperation_of_declared declared) due
  have done := (fetched_lenient fetched rfl).1
  have gives : (load setting op ws).workspace.Gives "x" 0 ⟨.float32, [1], [1, 2, 3, 4]⟩ :=
    (Workspace.gives_iff _ "x" 0 _).mpr ⟨by decide +kernel, by decide +kernel⟩
  exact ⟨reachable, declared, due, done, gives⟩

end Load

end Handler
end TensorBundle
