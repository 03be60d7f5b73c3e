import Mathlib
import TensorBundle.Json.Literal
import TensorBundle.Proofs.Action
import TensorBundle.Proofs.Binary
import TensorBundle.Proofs.Json.Members
import TensorBundle.Proofs.Json.Reading
import TensorBundle.Proofs.Text
/-!
Which documents can be read. Names are distinct in each object and integers have no more digits than
are allowed. Where the text has no surrogates, in the texts that are read no two halves of a
surrogate pair stand side by side, for reading makes one code point of them. Strings like these are
read back from what is written for them.
-/
namespace TensorBundle

/-- No half of a surrogate pair stands in front of the half that completes it. -/
def Text.Joined (t : Text) : Prop :=
  t.IsChain fun a b => ¬ (a.isHighSurrogate = true ∧ b.isLowSurrogate = true)

theorem Text.NoSurrogate.of_suffix {part t : Text} (clean : t.NoSurrogate) (ends : part <:+ t) :
    part.NoSurrogate := fun c member => clean c (ends.subset member)

namespace Json

/-- A document that can be read, with texts of some kind. -/
inductive Legible (kind : Text → Prop) : Json → Prop where
  | null : Legible kind .null
  | bool (b : Bool) : Legible kind (.bool b)
  | int (n : Int) (short : n.natAbs < 10 ^ Text.digitLimit) : Legible kind (.int n)
  | real (x : Binary) (near : x.IsWithin Binary.double.reach) : Legible kind (.real x)
  | text (t : Text) (fits : kind t) : Legible kind (.text t)
  | array (items : List Json) (each : ∀ item ∈ items, Legible kind item) :
      Legible kind (.array items)
  | object (members : List (Text × Json)) (distinct : Distinct members)
      (fits : ∀ member ∈ members, kind member.1)
      (each : ∀ member ∈ members, Legible kind member.2) : Legible kind (.object members)

def Yields {α : Type} (P : α → Prop) (scan : Scan α) : Prop :=
  ∀ a rest, scan = .ok (a, rest) → P a

section Yields
variable {α β : Type} {P : α → Prop} {Q : β → Prop}

theorem yields_ok {a : α} (holds : P a) (rest : Text) : Yields P (.ok (a, rest)) := by
  rintro _ _ ⟨⟩
  exact holds

theorem yields_error (stop : Stop) : Yields P (.error stop) := nofun

theorem yields_stopAt (kind : Problem) (rest : Text) : Yields P (stopAt kind rest) := nofun

theorem yields_map {f : α → β} (each : ∀ a, P a → Q (f a)) {scan : Scan α}
    (yields : Yields P scan) : Yields Q (scan.map fun (a, rest) => (f a, rest)) := by
  cases scan with
  | error stop => exact yields_error stop
  | ok read =>
      obtain ⟨a, rest⟩ := read
      exact yields_ok (each a (yields a rest rfl)) rest

end Yields

section Strings

/-- The code points read so far, last first: none is left to be joined with its neighbour, and it
is known whether the last one is a high surrogate. -/
structure Pushed (afterHigh : Bool) (done : Text) : Prop where
  joined : done.IsChain fun b a => ¬ (a.isHighSurrogate = true ∧ b.isLowSurrogate = true)
  last : afterHigh = done.head?.any Code.isHighSurrogate

theorem pushed_nil : Pushed false [] := ⟨.nil, rfl⟩

theorem joined_of_pushed {afterHigh : Bool} {done : Text} (pushed : Pushed afterHigh done) :
    Text.Joined done.reverse := List.isChain_reverse.mpr pushed.joined

theorem pushed_cons {afterHigh : Bool} {done : Text} (pushed : Pushed afterHigh done) {c : Code}
    (apart : ¬ (afterHigh = true ∧ c.isLowSurrogate = true)) :
    Pushed c.isHighSurrogate (c :: done) := by
  refine ⟨List.isChain_cons.mpr ⟨?_, pushed.joined⟩, rfl⟩
  rintro high first ⟨isHigh, isLow⟩
  apply apart
  rw [pushed.last, Option.mem_def.mp first]
  exact ⟨isHigh, isLow⟩

theorem pushed_plain {afterHigh : Bool} {done : Text} (pushed : Pushed afterHigh done) {c : Code}
    (plain : c.isHighSurrogate = false ∧ c.isLowSurrogate = false) :
    Pushed false (c :: done) := by
  rw [← plain.1]
  apply pushed_cons pushed
  simp [plain.2]

theorem plain_ofPair {high low : Code} (isHigh : high.isHighSurrogate = true)
    (isLow : low.isLowSurrogate = true) :
    (Code.ofPair high low).isHighSurrogate = false ∧
      (Code.ofPair high low).isLowSurrogate = false := by
  simp only [Code.isHighSurrogate, Code.isLowSurrogate, Bool.and_eq_true, decide_eq_true_eq,
    Bool.and_eq_false_iff, decide_eq_false_iff_not] at *
  have value : (Code.ofPair high low).val =
      0x10000 + (high.val - 0xD800) * 0x400 + (low.val - 0xDC00) := Nat.mod_eq_of_lt (by omega)
  omega

theorem pushed_escaped {afterHigh : Bool} {done : Text} (pushed : Pushed afterHigh done)
    (unit : Code) : Pushed unit.isHighSurrogate (pushEscaped afterHigh unit done) := by
  cases done with
  | nil =>
      apply pushed_cons pushed
      rw [pushed.last]
      exact fun both => Bool.false_ne_true both.1
  | cons high earlier =>
      rw [pushEscaped]
      by_cases completes : (afterHigh && unit.isLowSurrogate) = true
      · rw [if_pos completes]
        obtain ⟨after, isLow⟩ := Bool.and_eq_true_iff.mp completes
        have isHigh : high.isHighSurrogate = true := pushed.last.symm.trans after
        have plain := plain_ofPair isHigh isLow
        have notHigh : unit.isHighSurrogate = false := by
          simp only [Code.isHighSurrogate, Code.isLowSurrogate, Bool.and_eq_true,
            decide_eq_true_eq, Bool.and_eq_false_iff, decide_eq_false_iff_not] at isLow ⊢
          omega
        rw [notHigh]
        refine ⟨List.isChain_cons.mpr ⟨?_, (List.isChain_cons.mp pushed.joined).2⟩, ?_⟩
        · rintro _ _ ⟨_, isLow⟩
          rw [plain.2] at isLow
          cases isLow
        · rw [List.head?_cons, Option.any_some, plain.1]
      · rw [if_neg completes]
        apply pushed_cons pushed
        exact fun both => completes (Bool.and_eq_true_iff.mpr both)

theorem plain_unescape {letter code : Code} (found : unescape? letter = some code) :
    code.isHighSurrogate = false ∧ code.isLowSurrogate = false := by
  unfold unescape? at found
  split_ifs at found with same
  · cases found
    rcases same with rfl | rfl | rfl <;> decide
  all_goals
    rw [← Option.some.inj found]
    decide

theorem scanText_joined {start : Nat} {afterHigh : Bool} {done t : Text} (clean : t.NoSurrogate)
    (pushed : Pushed afterHigh done) :
    Yields Text.Joined (scanText start afterHigh done t) := by
  fun_induction scanText start afterHigh done t with
  | case1 => exact yields_error _
  | case2 afterHigh done rest => exact yields_ok (joined_of_pushed pushed) rest
  | case3 => exact yields_error _
  | case4 => exact yields_stopAt _ _
  | case5 => exact yields_stopAt _ _
  | case6 afterHigh done h₁ h₂ h₃ h₄ rest unit hex nonempty slash ih =>
      exact ih (clean.of_suffix (List.suffix_append [_, _, h₁, h₂, h₃, h₄] rest))
        (pushed_escaped pushed unit)
  | case7 => exact yields_stopAt _ _
  | case8 afterHigh done letter rest other code found slash ih =>
      exact ih (clean.of_suffix (List.suffix_append [_, letter] rest))
        (pushed_plain pushed (plain_unescape found))
  | case9 => exact yields_stopAt _ _
  | case10 => exact yields_stopAt _ _
  | case11 afterHigh done c rest noQuote noSlash printable ih =>
      exact ih (clean.of_suffix (List.suffix_cons c rest))
        (pushed_plain pushed (clean c (List.mem_cons_self ..)))

end Strings

section Numbers
variable {kind : Text → Prop}

theorem splitDigits_decimal (t : Text) : ∀ d ∈ (splitDigits t).1, d < 10 := by
  induction t with
  | nil => exact fun _ member => absurd member List.not_mem_nil
  | cons c rest ih =>
      unfold splitDigits
      cases digit : digitOf? c with
      | none => exact fun _ member => absurd member List.not_mem_nil
      | some d =>
          refine List.forall_mem_cons.mpr (And.intro ?_ ih)
          unfold digitOf? at digit
          split at digit
          · cases digit
            omega
          · cases digit

theorem splitWhole_decimal (t : Text) : ∀ d ∈ (splitWhole t).1, d < 10 := by
  unfold splitWhole
  split
  · intro d member
    rw [List.mem_singleton.mp member]
    decide
  · exact splitDigits_decimal t

theorem scanNumber_legible (t : Text) : Yields (Legible kind) (scanNumber t) := by
  unfold scanNumber
  split
  rename_i negative unsigned sign
  have decimal := splitWhole_decimal unsigned
  generalize splitWhole unsigned = parts at decimal ⊢
  obtain ⟨whole, afterWhole⟩ := parts
  dsimp only at decimal ⊢
  split
  · exact yields_stopAt _ _
  split
  · split
    · exact yields_error _
    · rename_i short
      apply yields_ok
      constructor
      have small := (Text.valueOfDigits_lt decimal).trans_le
        (Nat.pow_le_pow_right (by decide) (not_lt.mp short))
      cases negative <;> simpa using small
  · exact yields_ok (.real _ (Decimal.isWithin_toBinary Binary.Format.double_isRegular _ _ _ _)) _

theorem scanScalar_legible (t : Text) : Yields (Legible kind) (scanScalar t) := by
  unfold scanScalar
  split
  · rename_i found listed
    obtain ⟨⟨word, value⟩, known, same⟩ := List.exists_of_findSome?_eq_some listed
    obtain ⟨rest, behind, same⟩ := Option.map_eq_some_iff.mp same
    cases same
    apply yields_ok
    simp only [words, List.mem_cons, Prod.mk.injEq, List.not_mem_nil, or_false] at known
    rcases known with ⟨_, rfl⟩ | ⟨_, rfl⟩ | ⟨_, rfl⟩ | ⟨_, rfl⟩ | ⟨_, rfl⟩ | ⟨_, rfl⟩
    · exact .null
    · exact .bool true
    · exact .bool false
    · exact .real _ (Binary.isWithin_nan _)
    · exact .real _ (Binary.isWithin_infinite _ _)
    · exact .real _ (Binary.isWithin_infinite _ _)
  · exact scanNumber_legible t

end Numbers

section Documents
variable {source kind : Text → Prop}

/-- Strings in a text of one kind are of another, whatever stands in front of them. -/
structure Spells (source kind : Text → Prop) : Prop where
  suffix : ∀ {part t : Text}, source t → part <:+ t → source part
  text : ∀ start t, source t → Yields kind (scanText start false [] t)

theorem spells_joined : Spells Text.NoSurrogate Text.Joined where
  suffix := Text.NoSurrogate.of_suffix
  text _ _ clean := scanText_joined clean pushed_nil

theorem spells_any : Spells (fun _ => True) fun _ => True where
  suffix _ _ := trivial
  text _ _ _ _ _ _ := trivial

structure Members (kind : Text → Prop) (members : List (Text × Json)) : Prop where
  distinct : Distinct members
  fits : ∀ member ∈ members, kind member.1
  each : ∀ member ∈ members, Legible kind member.2

theorem members_nil : Members kind [] :=
  ⟨List.nodup_nil, fun _ member => absurd member List.not_mem_nil,
    fun _ member => absurd member List.not_mem_nil⟩

theorem members_bind {members : List (Text × Json)} (fit : Members kind members) {name : Text}
    (named : kind name) {value : Json} (legible : Legible kind value) :
    Members kind (bindMember name value members) where
  distinct := distinct_bindMember name value fit.distinct
  fits member listed := by
    rcases mem_bindMember listed with old | rfl
    · exact fit.fits member old
    · exact named
  each member listed := by
    rcases mem_bindMember listed with old | rfl
    · exact fit.each member old
    · exact legible

section Step
variable (spells : Spells source kind) {fuel : Nat}
include spells

theorem scanValue_legible
    (items : ∀ t, source t → ∀ done, (∀ item ∈ done, Legible kind item) →
      Yields (Legible kind) (scanItems fuel done t))
    (members : ∀ t, source t → ∀ done, Members kind done →
      Yields (Legible kind) (scanMembers fuel done t))
    (t : Text) (clean : source t) : Yields (Legible kind) (scanValue (fuel + 1) t) := by
  cases t with
  | nil => exact yields_stopAt _ _
  | cons c rest =>
  have inner := spells.suffix clean (List.suffix_cons c rest)
  have spaced := spells.suffix inner (skipSpace_suffix rest)
  rw [scanValue]
  split
  · exact yields_map Legible.text (spells.text _ rest inner)
  split
  · split
    · exact yields_stopAt _ _
    rename_i d tail opened
    rw [opened] at spaced
    split
    · exact yields_ok (.array [] fun _ member => absurd member List.not_mem_nil) tail
    · exact items _ spaced [] fun _ member => absurd member List.not_mem_nil
  split
  · split
    · exact yields_stopAt _ _
    rename_i d tail opened
    rw [opened] at spaced
    split
    · have none : Members kind [] := members_nil
      exact yields_ok (.object [] none.distinct none.fits none.each) tail
    · exact members _ spaced [] members_nil
  · exact scanScalar_legible (c :: rest)

theorem scanItems_legible
    (value : ∀ t, source t → Yields (Legible kind) (scanValue fuel t))
    (items : ∀ t, source t → ∀ done, (∀ item ∈ done, Legible kind item) →
      Yields (Legible kind) (scanItems fuel done t))
    (t : Text) (clean : source t) (done : List Json) (each : ∀ item ∈ done, Legible kind item) :
    Yields (Legible kind) (scanItems (fuel + 1) done t) := by
  rw [scanItems]
  have ends := (scan_scans fuel).1 t
  cases found : scanValue fuel t with
  | error stop => exact yields_error stop
  | ok read =>
      obtain ⟨item, rest⟩ := read
      have more : ∀ entry ∈ item :: done, Legible kind entry :=
        List.forall_mem_cons.mpr ⟨value t clean item rest found, each⟩
      rw [found] at ends
      have behind :=
        spells.suffix (spells.suffix clean (suffix_of_scans ends)) (skipSpace_suffix rest)
      dsimp only
      split
      · exact yields_stopAt _ _
      rename_i c tail spaced
      rw [spaced] at behind
      split
      · apply yields_ok
        exact .array _ fun entry listed => more entry (List.mem_reverse.mp listed)
      split
      · have next := spells.suffix behind (List.suffix_cons c tail)
        exact items _ (spells.suffix next (skipSpace_suffix tail)) _ more
      · exact yields_stopAt _ _

theorem scanMembers_legible
    (value : ∀ t, source t → Yields (Legible kind) (scanValue fuel t))
    (members : ∀ t, source t → ∀ done, Members kind done →
      Yields (Legible kind) (scanMembers fuel done t))
    (t : Text) (clean : source t) (done : List (Text × Json)) (fit : Members kind done) :
    Yields (Legible kind) (scanMembers (fuel + 1) done t) := by
  cases t with
  | nil => exact yields_stopAt _ _
  | cons c rest =>
  rw [scanMembers]
  split
  swap
  · exact yields_stopAt _ _
  have inner := spells.suffix clean (List.suffix_cons c rest)
  have fits : Yields kind (scanText (c :: rest).length false [] rest) := spells.text _ rest inner
  have ends := scanText_scans (c :: rest).length false [] rest
  cases named : scanText (c :: rest).length false [] rest with
  | error stop => exact yields_error stop
  | ok read =>
      obtain ⟨name, afterName⟩ := read
      rw [named] at ends
      have behind := spells.suffix (spells.suffix inner (suffix_of_scans ends))
        (skipSpace_suffix afterName)
      dsimp only
      split
      · exact yields_stopAt _ _
      rename_i d afterColon spaced
      rw [spaced] at behind
      split
      swap
      · exact yields_stopAt _ _
      have start := spells.suffix (spells.suffix behind (List.suffix_cons d afterColon))
        (skipSpace_suffix afterColon)
      have valueEnds := (scan_scans fuel).1 (skipSpace afterColon)
      cases found : scanValue fuel (skipSpace afterColon) with
      | error stop => exact yields_error stop
      | ok read =>
          obtain ⟨document, afterValue⟩ := read
          have more := members_bind fit (fits name afterName named)
            (value _ start document afterValue found)
          rw [found] at valueEnds
          have after := spells.suffix (spells.suffix start (suffix_of_scans valueEnds))
            (skipSpace_suffix afterValue)
          dsimp only
          split
          · exact yields_stopAt _ _
          rename_i e tail spaced
          rw [spaced] at after
          split
          · exact yields_ok (.object _ more.distinct more.fits more.each) tail
          split
          · have next := spells.suffix after (List.suffix_cons e tail)
            exact members _ (spells.suffix next (skipSpace_suffix tail)) _ more
          · exact yields_stopAt _ _

end Step

theorem scan_legible (spells : Spells source kind) (fuel : Nat) :
    (∀ t, source t → Yields (Legible kind) (scanValue fuel t)) ∧
    (∀ t, source t → ∀ done, (∀ item ∈ done, Legible kind item) →
      Yields (Legible kind) (scanItems fuel done t)) ∧
    ∀ t, source t → ∀ done, Members kind done →
      Yields (Legible kind) (scanMembers fuel done t) := by
  induction fuel with
  | zero =>
      refine ⟨?_, ?_, ?_⟩
      · intro t _
        rw [scanValue]
        exact yields_stopAt _ _
      · intro t _ done _
        rw [scanItems]
        exact yields_stopAt _ _
      · intro t _ done _
        rw [scanMembers]
        exact yields_stopAt _ _
  | succ fuel ih =>
      obtain ⟨value, items, members⟩ := ih
      exact ⟨scanValue_legible spells items members, scanItems_legible spells value items,
        scanMembers_legible spells value members⟩

/-- A document that is read from a text can be read back. -/
theorem legible_of_read (spells : Spells source kind) {t : Text} (clean : source t)
    {document : Json} (parsed : read t = .ok document) : Legible kind document := by
  unfold read scanDocument at parsed
  split at parsed
  · cases parsed
  have legible := (scan_legible spells (2 * t.length + 2)).1 _
    (spells.suffix clean (skipSpace_suffix t))
  cases found : scanValue (2 * t.length + 2) (skipSpace t) with
  | error stop =>
      rw [found] at parsed
      cases parsed
  | ok result =>
      rw [found] at parsed
      dsimp only at parsed
      split at parsed
      · cases parsed
        exact legible _ _ found
      · cases parsed

theorem Legible.isWritable {document : Json} (legible : Legible kind document) :
    document.isWritable = true := by
  induction legible with
  | null => rfl
  | bool b => rfl
  | int n short => exact (Text.isWritable_iff n).mpr short
  | real x near => rfl
  | text t fits => rfl
  | array items _ ih => exact (areWritable_iff items).mpr ih
  | object members _ _ _ ih => exact (areWritableMembers_iff members).mpr ih

/-- All integers of a document that was read can be written out again. -/
theorem isWritable_of_read {t : Text} {document : Json} (parsed : read t = .ok document) :
    document.isWritable = true :=
  (legible_of_read spells_any trivial parsed).isWritable

theorem Legible.isWritable_dimension {item : Json} (legible : Legible kind item) {d : Int}
    (given : Shape.dimension item = .ok d) : Text.isWritable d = true := by
  cases legible with
  | null => cases given
  | bool b =>
      cases given
      cases b <;> exact Text.isWritable_of_lt (by decide)
  | int n short =>
      cases given
      exact (Text.isWritable_iff _).mpr short
  | real x near =>
      have within : Binary.double.reach ≤ Text.digitLimit := by decide
      cases x with
      | nan => cases given
      | infinite negative => cases given
      | finite negative m q =>
          cases given
          exact Text.isWritable_of_le_two_pow within (near _ rfl)
  | text t fits =>
      rw [Shape.dimension] at given
      split at given
      · rename_i n read
        cases given
        exact (Text.isWritable_iff _).mpr (Text.toInteger_lt read)
      · cases given
      · cases given
  | array items each => cases given
  | object members distinct fits each => cases given

theorem Legible.items {document : Json} {items : List Json}
    (legible : Legible (fun _ => True) document) (listed : Shape.items document = .ok items) :
    ∀ item ∈ items, Legible (fun _ => True) item := by
  intro item member
  cases legible with
  | array items each =>
      cases listed
      exact each item member
  | text t fits =>
      cases listed
      obtain ⟨c, _, rfl⟩ := List.mem_map.mp member
      exact .text [c] trivial
  | object members distinct fits each =>
      cases listed
      obtain ⟨⟨name, value⟩, _, rfl⟩ := List.mem_map.mp member
      exact .text name trivial
  | null => cases listed
  | bool b => cases listed
  | int n short => cases listed
  | real x near => cases listed

end Documents

end Json

/-- Dimensions that a document gives can be written out if it was read from a text. -/
theorem Shape.isWritable_of_read {t : Text} {document : Json} {sizes : List Int}
    (parsed : Json.read t = .ok document) (given : ofJson document = .ok sizes) :
    ∀ d ∈ sizes, Text.isWritable d = true := by
  obtain ⟨items, listed, each⟩ := bind_eq_ok given
  have legible := (Json.legible_of_read Json.spells_any trivial parsed).items listed
  exact forall_of_forall₂ ((mapM_eq_ok_iff dimension items sizes).mp each) legible
    fun item d legible same => legible.isWritable_dimension same

end TensorBundle

namespace TensorBundle.Json

theorem hexValue_hexDigit (d : Nat) : Text.hexValue? (Text.hexDigit d) = some (d % 16) := by
  have table : ∀ d < 16, Text.hexValue? (Text.hexDigit d) = some d := by decide
  have same : Text.hexDigit d = Text.hexDigit (d % 16) := by
    rw [Text.hexDigit, Text.hexDigit, Nat.mod_mod]
  rw [same]
  exact table _ (Nat.mod_lt d (by decide))

theorem hex_four (n : Nat) : Text.hex 4 n =
    [Text.hexDigit (n / 4096), Text.hexDigit (n / 256), Text.hexDigit (n / 16),
      Text.hexDigit n] := by
  simp [Text.hex, Nat.div_div_eq_div_mul]

theorem hexUnit_hex {n : Nat} (unit : n < 0x10000) :
    hexUnit? (Text.hexDigit (n / 4096)) (Text.hexDigit (n / 256)) (Text.hexDigit (n / 16))
      (Text.hexDigit n) = some (Code.ofNat n) := by
  have value : (((n / 4096 % 16) * 16 + n / 256 % 16) * 16 + n / 16 % 16) * 16 + n % 16 = n := by
    omega
  simp [hexUnit?, hexValue_hexDigit, value]

section Code
variable {start : Nat} {afterHigh : Bool} {done rest : Text} {c : Code}

theorem scanText_short {letter : Code} (other : letter ≠ Code.ofChar 'u')
    (found : unescape? letter = some c) :
    scanText start afterHigh done (Code.ofChar '\\' :: letter :: rest) =
      scanText start false (c :: done) rest := by
  rw [scanText.eq_def]
  dsimp only
  rw [if_neg (by decide), if_pos rfl, if_neg other, found]

theorem scanText_unit {n : Nat} (unit : n < 0x10000) (more : rest ≠ []) :
    scanText start afterHigh done (("\\u" : Text) ++ Text.hex 4 n ++ rest) =
      scanText start (Code.ofNat n).isHighSurrogate (pushEscaped afterHigh (Code.ofNat n) done)
        rest := by
  obtain ⟨d, tail, rfl⟩ := List.exists_cons_of_ne_nil more
  rw [hex_four]
  change scanText start afterHigh done (Code.ofChar '\\' :: Code.ofChar 'u' ::
    Text.hexDigit (n / 4096) :: Text.hexDigit (n / 256) :: Text.hexDigit (n / 16) ::
    Text.hexDigit n :: d :: tail) = _
  rw [scanText.eq_def]
  dsimp only
  rw [if_neg (by decide), if_pos rfl, if_pos rfl, hexUnit_hex unit]

theorem scanText_printable (noQuote : c ≠ Code.ofChar '"') (noSlash : c ≠ Code.ofChar '\\')
    (printable : 0x20 ≤ c.val) :
    scanText start afterHigh done (c :: rest) = scanText start false (c :: done) rest := by
  rw [scanText.eq_def]
  dsimp only
  rw [if_neg noQuote, if_neg noSlash, if_neg (not_lt.mpr printable)]

theorem pushEscaped_apart (apart : ¬ (afterHigh = true ∧ c.isLowSurrogate = true)) :
    pushEscaped afterHigh c done = c :: done := by
  cases done with
  | nil => rfl
  | cons high earlier =>
      rw [pushEscaped, if_neg]
      exact fun completes => apart (Bool.and_eq_true_iff.mp completes)

theorem isHighSurrogate_small (small : c.val < 0xD800) : c.isHighSurrogate = false := by
  simp only [Code.isHighSurrogate, Bool.and_eq_false_iff, decide_eq_false_iff_not]
  omega

theorem isHighSurrogate_astral (astral : 0x10000 ≤ c.val) : c.isHighSurrogate = false := by
  simp only [Code.isHighSurrogate, Bool.and_eq_false_iff, decide_eq_false_iff_not]
  omega

theorem toPair_spells (astral : 0x10000 ≤ c.val) :
    c.toPair.1 < 0x10000 ∧ c.toPair.2 < 0x10000 ∧
    (Code.ofNat c.toPair.1).isHighSurrogate = true ∧
    (Code.ofNat c.toPair.1).isLowSurrogate = false ∧
    (Code.ofNat c.toPair.2).isHighSurrogate = false ∧
    (Code.ofNat c.toPair.2).isLowSurrogate = true ∧
    Code.ofPair (Code.ofNat c.toPair.1) (Code.ofNat c.toPair.2) = c := by
  have bound := c.isLt
  have high : (Code.ofNat c.toPair.1).val = 0xD800 + (c.val - 0x10000) / 0x400 :=
    Nat.mod_eq_of_lt (by simp only [Code.toPair]; omega)
  have low : (Code.ofNat c.toPair.2).val = 0xDC00 + (c.val - 0x10000) % 0x400 :=
    Nat.mod_eq_of_lt (by simp only [Code.toPair]; omega)
  have joined : Code.ofPair (Code.ofNat c.toPair.1) (Code.ofNat c.toPair.2) = c := by
    apply Fin.ext
    rw [Code.ofPair, high, low]
    exact (Nat.mod_eq_of_lt (by omega)).trans (by omega)
  refine ⟨?_, ?_, ?_, ?_, ?_, ?_, joined⟩
  · rw [Code.toPair]
    omega
  · rw [Code.toPair]
    omega
  all_goals
    simp only [Code.isHighSurrogate, Code.isLowSurrogate, high, low, Bool.and_eq_true,
      decide_eq_true_eq, Bool.and_eq_false_iff, decide_eq_false_iff_not]
    omega

theorem scanText_pair (astral : 0x10000 ≤ c.val) (more : rest ≠ []) :
    scanText start afterHigh done
        (("\\u" : Text) ++ Text.hex 4 c.toPair.1 ++ "\\u" ++ Text.hex 4 c.toPair.2 ++ rest) =
      scanText start false (c :: done) rest := by
  obtain ⟨highUnit, lowUnit, high, notLow, notHigh, low, joined⟩ := toPair_spells astral
  have split : ("\\u" : Text) ++ Text.hex 4 c.toPair.1 ++ "\\u" ++ Text.hex 4 c.toPair.2 ++ rest =
      ("\\u" : Text) ++ Text.hex 4 c.toPair.1 ++
        (("\\u" : Text) ++ Text.hex 4 c.toPair.2 ++ rest) := by
    simp only [List.append_assoc]
  have apart : ¬ (afterHigh = true ∧ (Code.ofNat c.toPair.1).isLowSurrogate = true) := by
    rw [notLow]
    exact fun both => Bool.false_ne_true both.2
  rw [split, scanText_unit highUnit (by simp [more]), scanText_unit lowUnit more,
    pushEscaped_apart apart, high, notHigh, pushEscaped, low, Bool.and_self, if_pos rfl, joined]

theorem scanText_escapeCode (apart : ¬ (afterHigh = true ∧ c.isLowSurrogate = true))
    (more : rest ≠ []) :
    scanText start afterHigh done (escapeCode c ++ rest) =
      scanText start c.isHighSurrogate (c :: done) rest := by
  unfold escapeCode
  -- Seven short escapes, the code point as it is, and the escapes of its units.
  split_ifs with quote slash newline carriageReturn tab formFeed backspace printable unit
  · subst quote
    exact scanText_short (by decide) rfl
  · subst slash
    exact scanText_short (by decide) rfl
  · subst newline
    exact scanText_short (by decide) rfl
  · subst carriageReturn
    exact scanText_short (by decide) rfl
  · subst tab
    exact scanText_short (by decide) rfl
  · obtain rfl : c = Code.ofNat 0x0C := Fin.ext formFeed
    exact scanText_short (by decide) rfl
  · obtain rfl : c = Code.ofNat 0x08 := Fin.ext backspace
    exact scanText_short (by decide) rfl
  · rw [isHighSurrogate_small (by omega)]
    exact scanText_printable quote slash printable.1
  · rw [scanText_unit unit more, show Code.ofNat c.val = c from Fin.ofNat_val_eq_self c,
      pushEscaped_apart apart]
  · rw [scanText_pair (not_lt.mp unit) more, isHighSurrogate_astral (not_lt.mp unit)]

end Code

theorem scanText_escaped (start : Nat) (rest : Text) {t : Text} (joined : t.Joined)
    (afterHigh : Bool) (done : Text)
    (apart : ∀ c ∈ t.head?, ¬ (afterHigh = true ∧ c.isLowSurrogate = true)) :
    scanText start afterHigh done (t.flatMap escapeCode ++ Code.ofChar '"' :: rest) =
      .ok (done.reverse ++ t, rest) := by
  induction t generalizing afterHigh done with
  | nil =>
      rw [List.flatMap_nil, List.nil_append, List.append_nil, scanText.eq_def]
      exact if_pos rfl
  | cons c t ih =>
      obtain ⟨junction, joined⟩ := List.isChain_cons.mp joined
      rw [List.flatMap_cons, List.append_assoc, scanText_escapeCode (apart c rfl) (by simp),
        ih joined c.isHighSurrogate (c :: done) junction]
      simp

theorem scanText_printed (start : Nat) {t : Text} (joined : t.Joined) (rest : Text) :
    scanText start false [] (t.flatMap escapeCode ++ Code.ofChar '"' :: rest) = .ok (t, rest) :=
  scanText_escaped start rest joined false [] fun _ _ both => Bool.false_ne_true both.1

end TensorBundle.Json
