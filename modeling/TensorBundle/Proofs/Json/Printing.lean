import Mathlib
import TensorBundle.Proofs.Json.Legible
/-!
Documents that were printed are read back, on one line as over several. A part of the text is read
up to its end, since what follows it, a blank, a comma or a bracket, goes on with no number.
-/
namespace TensorBundle.Json

mutual

def isIntegral : Json → Bool
  | .real _ => false
  | .array items => itemsIntegral items
  | .object members => membersIntegral members
  | _ => true

def itemsIntegral : List Json → Bool
  | [] => true
  | item :: items => isIntegral item && itemsIntegral items

def membersIntegral : List (Text × Json) → Bool
  | [] => true
  | (_, value) :: members => isIntegral value && membersIntegral members

end

theorem isIntegral_array (items : List Json) :
    isIntegral (.array items) = true ↔ ∀ item ∈ items, isIntegral item = true := by
  rw [isIntegral]
  induction items with
  | nil => simp [itemsIntegral]
  | cons item items ih => rw [itemsIntegral, Bool.and_eq_true, ih, List.forall_mem_cons]

theorem isIntegral_object (members : List (Text × Json)) :
    isIntegral (.object members) = true ↔ ∀ member ∈ members, isIntegral member.2 = true := by
  rw [isIntegral]
  induction members with
  | nil => simp [membersIntegral]
  | cons member members ih => rw [membersIntegral, Bool.and_eq_true, ih, List.forall_mem_cons]

/-- A number in front of the text ends there. -/
def Delimits (rest : Text) : Prop :=
  ∀ c ∈ rest.head?, digitOf? c = none ∧ c ≠ Code.ofChar '.' ∧ c ≠ Code.ofChar 'e' ∧
    c ≠ Code.ofChar 'E'

def IsGap (gap : Text) : Prop := ∀ c ∈ gap, isSpace c = true

def Solid (text : Text) : Prop := ∀ rest, skipSpace (text ++ rest) = text ++ rest

/-- The text is read as the document, whatever ends it. It begins with no blank, with no closing
bracket and with no mark of byte order. -/
structure Denotes (text : Text) (document : Json) : Prop where
  opens : ∃ c tail, text = c :: tail ∧ isSpace c = false ∧ c ≠ Code.ofChar ']' ∧
    c ≠ Code.ofNat 0xFEFF
  reads : ∀ rest, Delimits rest → ∀ fuel, 2 * (text ++ rest).length ≤ fuel →
    scanValue (fuel + 1) (text ++ rest) = .ok (document, rest)

section Gaps
variable {gap rest : Text}

theorem delimits_nil : Delimits [] := fun _ none => by cases none

theorem delimits_cons {c : Code} (ends : digitOf? c = none ∧ c ≠ Code.ofChar '.' ∧
    c ≠ Code.ofChar 'e' ∧ c ≠ Code.ofChar 'E') (rest : Text) : Delimits (c :: rest) := by
  rintro _ ⟨⟩
  exact ends

theorem isSpace_cases {c : Code} (space : isSpace c = true) :
    c = Code.ofNat 0x20 ∨ c = Code.ofNat 0x09 ∨ c = Code.ofNat 0x0A ∨ c = Code.ofNat 0x0D := by
  simp only [isSpace, Bool.or_eq_true, beq_iff_eq] at space
  rcases space with ((blank | tab) | newline) | carriageReturn
  · exact Or.inl (Fin.ext blank)
  · exact Or.inr (Or.inl (Fin.ext tab))
  · exact Or.inr (Or.inr (Or.inl (Fin.ext newline)))
  · exact Or.inr (Or.inr (Or.inr (Fin.ext carriageReturn)))

theorem delimits_gap (blanks : IsGap gap) (ends : Delimits rest) : Delimits (gap ++ rest) := by
  cases gap with
  | nil => exact ends
  | cons c gap =>
      apply delimits_cons
      rcases isSpace_cases (blanks c (List.mem_cons_self ..)) with rfl | rfl | rfl | rfl
      all_goals decide

theorem skipSpace_gap (blanks : IsGap gap) : skipSpace (gap ++ rest) = skipSpace rest :=
  List.dropWhile_append_of_pos blanks

theorem skipSpace_cons {c : Code} (solid : isSpace c = false) :
    skipSpace (c :: rest) = c :: rest := by
  apply List.dropWhile_cons_of_neg
  rw [solid]
  exact Bool.false_ne_true

theorem join_cons (separator text : Text) (texts : List Text) :
    ∃ tail, Text.join separator (text :: texts) = text ++ tail := by
  cases texts with
  | nil => exact ⟨[], (List.append_nil text).symm⟩
  | cons next texts =>
      exact ⟨separator ++ Text.join separator (next :: texts), List.append_assoc ..⟩

theorem join_next (between text next : Text) (texts : List Text) (rest : Text) :
    Text.join (Code.ofChar ',' :: between) (text :: next :: texts) ++ rest =
      text ++ Code.ofChar ',' ::
        (between ++ (Text.join (Code.ofChar ',' :: between) (next :: texts) ++ rest)) := by
  simp [Text.join]

theorem Solid.join {text : Text} (solid : Solid text) (separator : Text) (texts : List Text) :
    Solid (Text.join separator (text :: texts)) := by
  intro rest
  obtain ⟨tail, same⟩ := join_cons separator text texts
  rw [same, List.append_assoc]
  exact solid (tail ++ rest)

theorem Denotes.solid {text : Text} {document : Json} (denotes : Denotes text document) :
    Solid text := by
  obtain ⟨c, tail, rfl, solid, _⟩ := denotes.opens
  exact fun rest => skipSpace_cons solid

end Gaps

section Numbers
variable {rest : Text}

theorem digitOf_digit {d : Nat} (decimal : d < 10) : digitOf? (Text.digit d) = some d := by
  have table : ∀ d < 10, digitOf? (Text.digit d) = some d := by decide
  exact table d decimal

theorem splitDigits_delimits (ends : Delimits rest) : splitDigits rest = ([], rest) := by
  cases rest with
  | nil => rfl
  | cons c rest => rw [splitDigits, (ends c rfl).1]

theorem splitDigits_digits {ds : List Nat} (decimal : ∀ d ∈ ds, d < 10) (ends : Delimits rest) :
    splitDigits (ds.map Text.digit ++ rest) = (ds, rest) := by
  induction ds with
  | nil => exact splitDigits_delimits ends
  | cons d ds ih =>
      obtain ⟨first, others⟩ := List.forall_mem_cons.mp decimal
      rw [List.map_cons, List.cons_append, splitDigits, digitOf_digit first, ih others]

theorem splitWhole_natural (n : Nat) (ends : Delimits rest) :
    splitWhole (Text.natural n ++ rest) = (Text.digits n, rest) := by
  have split := splitDigits_digits (fun d => Text.digits_lt (n := n)) ends
  rw [Text.natural_eq, splitWhole, split]
  rcases Text.exists_digits n with ⟨d, ds, written, leading⟩ | ⟨_, written⟩
  · rw [written]
    cases d with
    | zero => exact absurd rfl leading
    | succ d => rfl
  · rw [written]
    rfl

theorem splitFraction_delimits (ends : Delimits rest) : splitFraction rest = none := by
  cases rest with
  | nil => rfl
  | cons c rest => exact if_neg (ends c rfl).2.1

theorem splitExponent_delimits (ends : Delimits rest) : splitExponent rest = none := by
  cases rest with
  | nil => rfl
  | cons c rest =>
      rw [splitExponent, if_neg]
      rintro (small | large)
      · exact (ends c rfl).2.2.1 small
      · exact (ends c rfl).2.2.2 large

theorem scanNumber_integer {n : Int} (short : n.natAbs < 10 ^ Text.digitLimit)
    (ends : Delimits rest) : scanNumber (Text.integer n ++ rest) = .ok (.int n, rest) := by
  have whole := splitWhole_natural n.natAbs ends
  have value := Text.valueOfDigits_digits n.natAbs
  have few := not_lt.mpr (Text.length_digits (by decide) short)
  have some : Text.digits n.natAbs ≠ [] := by
    rcases Text.exists_digits n.natAbs with ⟨_, _, written, _⟩ | ⟨_, written⟩
    all_goals simp [written]
  unfold Text.integer
  split
  · rw [List.cons_append, scanNumber, if_pos rfl]
    simp only [whole, some, splitFraction_delimits ends, splitExponent_delimits ends, few, value,
      if_false, Option.getD_none]
    simp only [if_true, Except.ok.injEq, Prod.mk.injEq, Json.int.injEq, and_true]
    omega
  · obtain ⟨d, tail, decimal, first⟩ := Text.natural_cons n.natAbs
    have unsigned : Text.digit d ≠ Code.ofChar '-' := by
      have table : ∀ d < 10, Text.digit d ≠ Code.ofChar '-' := by decide
      exact table d decimal
    rw [first] at whole ⊢
    rw [List.cons_append] at whole ⊢
    rw [scanNumber, if_neg unsigned]
    simp only [whole, some, splitFraction_delimits ends, splitExponent_delimits ends, few, value,
      if_false, Option.getD_none]
    simp only [Bool.false_eq_true, if_false, Except.ok.injEq, Prod.mk.injEq, Json.int.injEq,
      and_true]
    omega

theorem scanScalar_digit {d : Nat} (decimal : d < 10) (tail : Text) :
    scanScalar (Text.digit d :: tail) = scanNumber (Text.digit d :: tail) ∧
    scanScalar (Code.ofChar '-' :: Text.digit d :: tail) =
      scanNumber (Code.ofChar '-' :: Text.digit d :: tail) := by
  interval_cases d
  all_goals exact ⟨rfl, rfl⟩

end Numbers

section Scalars

theorem denotes_null : Denotes "null" .null where
  opens := ⟨_, _, rfl, by decide⟩
  reads _ _ _ _ := rfl

theorem denotes_true : Denotes "true" (.bool true) where
  opens := ⟨_, _, rfl, by decide⟩
  reads _ _ _ _ := rfl

theorem denotes_false : Denotes "false" (.bool false) where
  opens := ⟨_, _, rfl, by decide⟩
  reads _ _ _ _ := rfl

theorem scanValue_scalar {c : Code} (noText : c ≠ Code.ofChar '"') (noArray : c ≠ Code.ofChar '[')
    (noObject : c ≠ Code.ofChar '\x7b') (fuel : Nat) (tail : Text) :
    scanValue (fuel + 1) (c :: tail) = scanScalar (c :: tail) := by
  rw [scanValue, if_neg noText, if_neg noArray, if_neg noObject]

theorem denotes_int {n : Int} (short : n.natAbs < 10 ^ Text.digitLimit) :
    Denotes (Text.integer n) (.int n) := by
  obtain ⟨d, tail, decimal, first⟩ := Text.natural_cons n.natAbs
  have table : ∀ d < 10, isSpace (Text.digit d) = false ∧ Text.digit d ≠ Code.ofChar ']' ∧
      Text.digit d ≠ Code.ofNat 0xFEFF ∧ Text.digit d ≠ Code.ofChar '"' ∧
      Text.digit d ≠ Code.ofChar '[' ∧ Text.digit d ≠ Code.ofChar '\x7b' := by decide
  obtain ⟨solid, notClosing, noMark, noText, noArray, noObject⟩ := table d decimal
  have number (rest : Text) (ends : Delimits rest) := scanNumber_integer short ends
  unfold Text.integer at number ⊢
  rw [first] at number ⊢
  split
  · rename_i negative
    simp only [if_pos negative, List.cons_append] at number
    refine ⟨⟨_, _, rfl, by decide⟩, fun rest ends fuel _ => ?_⟩
    rw [List.cons_append, List.cons_append, scanValue_scalar (by decide) (by decide) (by decide),
      (scanScalar_digit decimal _).2, number rest ends]
  · rename_i unsigned
    simp only [if_neg unsigned, List.cons_append] at number
    refine ⟨⟨_, _, rfl, solid, notClosing, noMark⟩, fun rest ends fuel _ => ?_⟩
    rw [List.cons_append, scanValue_scalar noText noArray noObject,
      (scanScalar_digit decimal _).1, number rest ends]

theorem printText_append (t rest : Text) : printText t ++ rest =
    Code.ofChar '"' :: (t.flatMap escapeCode ++ Code.ofChar '"' :: rest) := by
  change (Code.ofChar '"' :: (t.flatMap escapeCode ++ [Code.ofChar '"'])) ++ rest = _
  simp

theorem denotes_text {t : Text} (joined : t.Joined) : Denotes (printText t) (.text t) where
  opens := ⟨_, _, rfl, by decide⟩
  reads rest _ fuel _ := by
    rw [printText_append, scanValue, if_pos rfl, scanText_printed _ joined]
    rfl

end Scalars

section Lists
variable {fuel : Nat} {done : List Json} {item : Json} {t rest tail : Text}

theorem scanItems_next (first : scanValue fuel t = .ok (item, rest))
    (comma : skipSpace rest = Code.ofChar ',' :: tail) :
    scanItems (fuel + 1) done t = scanItems fuel (item :: done) (skipSpace tail) := by
  rw [scanItems, first]
  dsimp only
  rw [comma]
  rfl

theorem scanItems_last (first : scanValue fuel t = .ok (item, rest))
    (closing : skipSpace rest = Code.ofChar ']' :: tail) :
    scanItems (fuel + 1) done t = .ok (.array (item :: done).reverse, tail) := by
  rw [scanItems, first]
  dsimp only
  rw [closing]
  rfl

theorem delimits_closing (rest : Text) : Delimits (Code.ofChar ']' :: rest) :=
  delimits_cons (by decide) rest

theorem delimits_comma (rest : Text) : Delimits (Code.ofChar ',' :: rest) :=
  delimits_cons (by decide) rest

/-- Items with commas between them are read one after another up to the closing bracket. Each comma
leaves the bound on the steps ahead of the text. -/
theorem scanItems_join {between last : Text} (gap : IsGap between) (ending : IsGap last)
    (rest : Text) {text : Text} {item : Json} (first : Denotes text item) {texts : List Text}
    {items : List Json} (others : List.Forall₂ Denotes texts items) (done : List Json) (fuel : Nat)
    (enough : 2 * (Text.join (Code.ofChar ',' :: between) (text :: texts) ++
      (last ++ Code.ofChar ']' :: rest)).length ≤ fuel) :
    scanItems (fuel + 2) done (Text.join (Code.ofChar ',' :: between) (text :: texts) ++
      (last ++ Code.ofChar ']' :: rest)) = .ok (.array (done.reverse ++ item :: items), rest) := by
  induction others generalizing text item done fuel with
  | nil =>
      have read := first.reads _ (delimits_gap ending (delimits_closing rest)) fuel enough
      rw [Text.join, scanItems_last read (by rw [skipSpace_gap ending]; rfl), List.reverse_cons]
  | @cons next value texts items second others ih =>
      have ih := ih second (item :: done)
      have begins := second.solid.join (Code.ofChar ',' :: between) texts
        (last ++ Code.ofChar ']' :: rest)
      rw [join_next] at enough ⊢
      generalize Text.join (Code.ofChar ',' :: between) (next :: texts) ++
        (last ++ Code.ofChar ']' :: rest) = others at ih begins enough ⊢
      have read := first.reads _ (delimits_comma (between ++ others)) fuel enough
      simp only [List.length_append, List.length_cons] at enough
      obtain ⟨fuel, rfl⟩ : ∃ fewer, fuel = fewer + 1 := ⟨fuel - 1, by omega⟩
      rw [scanItems_next read rfl, skipSpace_gap gap, begins, ih fuel (by omega),
        List.reverse_cons, List.append_assoc, List.singleton_append]

end Lists

section Objects
variable {fuel : Nat} {done : List (Text × Json)}

structure DenotesMember (text : Text) (member : Text × Json) : Prop where
  joined : member.1.Joined
  spelled : ∃ value, Denotes value member.2 ∧ text = printText member.1 ++ ": " ++ value

section Member
variable {text : Text} {member : Text × Json}

theorem DenotesMember.opens (denotes : DenotesMember text member) :
    ∃ tail, text = Code.ofChar '"' :: tail := by
  obtain ⟨value, _, rfl⟩ := denotes.spelled
  exact ⟨_, rfl⟩

theorem DenotesMember.solid (denotes : DenotesMember text member) : Solid text := by
  obtain ⟨tail, rfl⟩ := denotes.opens
  exact fun rest => rfl

end Member

theorem scanMembers_member {text rest tail : Text} {member : Text × Json} {c : Code}
    (denotes : DenotesMember text member) (ends : Delimits rest)
    (spaced : skipSpace rest = c :: tail) (enough : 2 * (text ++ rest).length ≤ fuel) :
    scanMembers (fuel + 2) done (text ++ rest) =
      if c = Code.ofChar '\x7d' then .ok (.object (bindMember member.1 member.2 done), tail)
      else if c = Code.ofChar ',' then
        scanMembers (fuel + 1) (bindMember member.1 member.2 done) (skipSpace tail)
      else stopAt .expectingComma (c :: tail) := by
  obtain ⟨value, denotesValue, rfl⟩ := denotes.spelled
  have split : printText member.1 ++ ": " ++ value ++ rest = Code.ofChar '"' ::
      (member.1.flatMap escapeCode ++ Code.ofChar '"' ::
        Code.ofChar ':' :: Code.ofChar ' ' :: (value ++ rest)) := by
    rw [List.append_assoc, List.append_assoc, printText_append]
    rfl
  rw [split] at enough ⊢
  have read := denotesValue.reads rest ends fuel (by
    simp only [List.length_append, List.length_cons] at enough ⊢
    omega)
  have colon : skipSpace (Code.ofChar ':' :: Code.ofChar ' ' :: (value ++ rest)) =
      Code.ofChar ':' :: Code.ofChar ' ' :: (value ++ rest) := rfl
  have begins : skipSpace (Code.ofChar ' ' :: (value ++ rest)) = value ++ rest :=
    denotesValue.solid rest
  rw [scanMembers, if_pos rfl, scanText_printed _ denotes.joined]
  dsimp only
  rw [colon]
  dsimp only
  rw [if_pos rfl, begins, read]
  dsimp only
  rw [spaced]

theorem scanMembers_join {between last : Text} (gap : IsGap between) (ending : IsGap last)
    (rest : Text) {text : Text} {member : Text × Json} (first : DenotesMember text member)
    {texts : List Text} {members : List (Text × Json)}
    (others : List.Forall₂ DenotesMember texts members) (done : List (Text × Json)) (fuel : Nat)
    (enough : 2 * (Text.join (Code.ofChar ',' :: between) (text :: texts) ++
      (last ++ Code.ofChar '\x7d' :: rest)).length ≤ fuel) :
    scanMembers (fuel + 2) done (Text.join (Code.ofChar ',' :: between) (text :: texts) ++
      (last ++ Code.ofChar '\x7d' :: rest)) =
        .ok (.object ((member :: members).foldl
          (fun bound (key, value) => bindMember key value bound) done), rest) := by
  induction others generalizing text member done fuel with
  | nil =>
      have ends : Delimits (last ++ Code.ofChar '\x7d' :: rest) :=
        delimits_gap ending (delimits_cons (by decide) rest)
      have closing : skipSpace (last ++ Code.ofChar '\x7d' :: rest) =
          Code.ofChar '\x7d' :: rest := by
        rw [skipSpace_gap ending]
        rfl
      rw [Text.join] at enough ⊢
      rw [scanMembers_member first ends closing enough, if_pos rfl]
      rfl
  | @cons next value texts members second others ih =>
      have ih := ih second (bindMember member.1 member.2 done)
      have begins := second.solid.join (Code.ofChar ',' :: between) texts
        (last ++ Code.ofChar '\x7d' :: rest)
      rw [join_next] at enough ⊢
      generalize Text.join (Code.ofChar ',' :: between) (next :: texts) ++
        (last ++ Code.ofChar '\x7d' :: rest) = others at ih begins enough ⊢
      have comma : skipSpace (Code.ofChar ',' :: (between ++ others)) =
          Code.ofChar ',' :: (between ++ others) := rfl
      rw [scanMembers_member first (delimits_comma (between ++ others)) comma enough]
      simp only [List.length_append, List.length_cons] at enough
      obtain ⟨fuel, rfl⟩ : ∃ fewer, fuel = fewer + 1 := ⟨fuel - 1, by omega⟩
      rw [if_neg (by decide), if_pos rfl, skipSpace_gap gap, begins, ih fuel (by omega)]
      rfl

end Objects

section Documents

theorem lineStart_gap (indent : Option Nat) (depth : Nat) : IsGap (lineStart indent depth) := by
  intro c member
  cases indent with
  | none => exact absurd member List.not_mem_nil
  | some width =>
      rcases List.mem_cons.mp member with rfl | blank
      · decide
      · rw [List.eq_of_mem_replicate blank]
        decide

theorem enclose_append (indent : Option Nat) (depth : Nat) (opening closing : Code) (text : Text)
    (texts : List Text) : ∃ between, IsGap between ∧ ∀ rest,
      enclose indent depth [opening] [closing] (text :: texts) ++ rest =
        opening :: (lineStart indent (depth + 1) ++
          (Text.join (Code.ofChar ',' :: between) (text :: texts) ++
            (lineStart indent depth ++ closing :: rest))) := by
  cases indent with
  | none =>
      refine ⟨[Code.ofChar ' '], ?_, fun rest => by simp [enclose]; rfl⟩
      intro c member
      rw [List.mem_singleton.mp member]
      decide
  | some width =>
      exact ⟨lineStart (some width) (depth + 1), lineStart_gap _ _, fun rest => by
        simp [enclose]
        rfl⟩

variable (indent : Option Nat) (depth : Nat)

theorem denotes_array {texts : List Text} {items : List Json}
    (each : List.Forall₂ Denotes texts items) :
    Denotes (enclose indent depth "[" "]" texts) (.array items) := by
  change Denotes (enclose indent depth [Code.ofChar '['] [Code.ofChar ']'] texts) (.array items)
  cases each with
  | nil => exact ⟨⟨_, _, rfl, by decide⟩, fun _ _ _ _ => rfl⟩
  | @cons text item texts items first others =>
      obtain ⟨between, gap, spelled⟩ :=
        enclose_append indent depth (Code.ofChar '[') (Code.ofChar ']') text texts
      refine ⟨⟨_, _, by rw [← List.append_nil (enclose ..), spelled], by decide⟩,
        fun rest _ fuel enough => ?_⟩
      have read := scanItems_join gap (lineStart_gap indent depth) rest first others []
      obtain ⟨tail, begins⟩ := join_cons (Code.ofChar ',' :: between) text texts
      obtain ⟨c, start, opens, solid, notClosing, _⟩ := first.opens
      have head : Text.join (Code.ofChar ',' :: between) (text :: texts) ++
          (lineStart indent depth ++ Code.ofChar ']' :: rest) = c :: (start ++ tail ++
            (lineStart indent depth ++ Code.ofChar ']' :: rest)) := by
        rw [begins, opens]
        rfl
      rw [spelled] at enough ⊢
      rw [List.length_cons, List.length_append] at enough
      obtain ⟨fuel, rfl⟩ : ∃ fewer, fuel = fewer + 2 := ⟨fuel - 2, by omega⟩
      have read := read fuel (by omega)
      rw [head] at read ⊢
      rw [scanValue, if_neg (by decide), if_pos rfl, skipSpace_gap (lineStart_gap _ _),
        skipSpace_cons solid]
      dsimp only
      rw [if_neg notClosing, read]
      rfl

theorem denotes_object {texts : List Text} {members : List (Text × Json)}
    (each : List.Forall₂ DenotesMember texts members) (distinct : Distinct members) :
    Denotes (enclose indent depth "\x7b" "\x7d" texts) (.object members) := by
  change Denotes (enclose indent depth [Code.ofChar '\x7b'] [Code.ofChar '\x7d'] texts) _
  have bound := foldl_bindMember [] members distinct
  cases each with
  | nil => exact ⟨⟨_, _, rfl, by decide⟩, fun _ _ _ _ => rfl⟩
  | @cons text member texts members first others =>
      obtain ⟨between, gap, spelled⟩ :=
        enclose_append indent depth (Code.ofChar '\x7b') (Code.ofChar '\x7d') text texts
      refine ⟨⟨_, _, by rw [← List.append_nil (enclose ..), spelled], by decide⟩,
        fun rest _ fuel enough => ?_⟩
      have read := scanMembers_join gap (lineStart_gap indent depth) rest first others []
      rw [bound] at read
      obtain ⟨tail, begins⟩ := join_cons (Code.ofChar ',' :: between) text texts
      obtain ⟨start, opens⟩ := first.opens
      have head : Text.join (Code.ofChar ',' :: between) (text :: texts) ++
          (lineStart indent depth ++ Code.ofChar '\x7d' :: rest) = Code.ofChar '"' ::
            (start ++ tail ++ (lineStart indent depth ++ Code.ofChar '\x7d' :: rest)) := by
        rw [begins, opens]
        rfl
      rw [spelled] at enough ⊢
      rw [List.length_cons, List.length_append] at enough
      obtain ⟨fuel, rfl⟩ : ∃ fewer, fuel = fewer + 2 := ⟨fuel - 2, by omega⟩
      have read := read fuel (by omega)
      rw [head] at read ⊢
      rw [scanValue, if_neg (by decide), if_neg (by decide), if_pos rfl,
        skipSpace_gap (lineStart_gap _ _), skipSpace_cons (by decide)]
      dsimp only
      rw [if_neg (by decide), read]
      rfl

theorem printItems_eq (items : List Json) :
    printItems indent depth items = items.map (printAt indent depth) := by
  induction items with
  | nil => rfl
  | cons item items ih => rw [printItems, ih, List.map_cons]

theorem printMembers_eq (members : List (Text × Json)) :
    printMembers indent depth members =
      members.map fun member => printText member.1 ++ ": " ++ printAt indent depth member.2 := by
  induction members with
  | nil => rfl
  | cons member members ih => rw [printMembers, ih, List.map_cons]

/-- Every document that can be read is read back from its printed form, if its numbers are
integers. -/
theorem denotes_printAt {document : Json} (legible : Legible Text.Joined document)
    (integral : isIntegral document = true) : Denotes (printAt indent depth document) document := by
  -- The entries of a list or an object are printed one level deeper.
  induction legible generalizing depth with
  | null => exact denotes_null
  | bool b =>
      cases b with
      | true => exact denotes_true
      | false => exact denotes_false
  | int n short => exact denotes_int short
  | real x near => cases integral
  | text t joined => exact denotes_text joined
  | array items _ ih =>
      have each := (isIntegral_array items).mp integral
      rw [printAt, printItems_eq]
      apply denotes_array
      rw [List.forall₂_map_left_iff, List.forall₂_same]
      intro item member
      exact ih item member (depth + 1) (each item member)
  | object members distinct joined _ ih =>
      have each := (isIntegral_object members).mp integral
      rw [printAt, printMembers_eq]
      refine denotes_object indent depth ?_ distinct
      rw [List.forall₂_map_left_iff, List.forall₂_same]
      intro member listed
      exact ⟨joined member listed, _, ih member listed (depth + 1) (each member listed), rfl⟩

/-- Printing and reading gives the document, with the members of its objects in their order. -/
theorem read_print (indent : Option Nat) {document : Json}
    (legible : Legible Text.Joined document) (integral : isIntegral document = true) :
    read (print indent document) = .ok document := by
  have denotes := denotes_printAt indent 0 legible integral
  obtain ⟨c, tail, opens, _, _, noMark⟩ := denotes.opens
  have unmarked : (printAt indent 0 document).head? ≠ some (Code.ofNat 0xFEFF) := by
    rw [opens]
    exact fun same => noMark (Option.some.inj same)
  have begins := denotes.solid []
  have scanned := denotes.reads [] delimits_nil (2 * (printAt indent 0 document).length + 1)
    (by rw [List.append_nil]; omega)
  rw [List.append_nil] at begins scanned
  rw [read, print, scanDocument, if_neg unmarked, begins, scanned]
  rfl

end Documents

end TensorBundle.Json
