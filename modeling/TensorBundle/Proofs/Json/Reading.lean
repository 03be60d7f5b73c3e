import Mathlib
import TensorBundle.Json.Reader
/-!
What reading a document can come to. A part of a text is read up to some place in it; where a number
is refused for its length, a run of that many digits is in the text. The steps that the reader is
given are enough: with more of them it comes to the same.
-/
namespace TensorBundle.Json

/-- A text has a run of so many digits, which are more than an integer may have. -/
def LongRun (t : Text) (count : Nat) : Prop :=
  Text.digitLimit < count ∧
    ∃ run, run <:+: t ∧ run.length = count ∧ ∀ c ∈ run, (digitOf? c).isSome = true

theorem longRun_of_suffix {part t : Text} {count : Nat} (ends : part <:+ t)
    (long : LongRun part count) : LongRun t count := by
  obtain ⟨beyond, run, within, counted, digits⟩ := long
  exact ⟨beyond, run, within.trans ends.isInfix, counted, digits⟩

/-- What reading a part of a text can come to. -/
inductive Scans {α : Type} (t : Text) : Scan α → Prop where
  | read (a : α) (rest : Text) (ends : rest <:+ t) : Scans t (.ok (a, rest))
  | problem (kind : Problem) (left : Nat) : Scans t (.error (.problem kind left))
  | tooLong (count : Nat) (long : LongRun t count) : Scans t (.error (.tooManyDigits count))

section Parts
variable {α β : Type} {t : Text}

theorem scans_of_suffix {part : Text} {scan : Scan α} (ends : part <:+ t)
    (scans : Scans part scan) : Scans t scan := by
  cases scans with
  | read a rest inner => exact .read a rest (inner.trans ends)
  | problem kind left => exact .problem kind left
  | tooLong count long => exact .tooLong count (longRun_of_suffix ends long)

theorem suffix_of_scans {a : α} {rest : Text} (scans : Scans t (.ok (a, rest))) : rest <:+ t := by
  cases scans with
  | read _ _ ends => exact ends

theorem scans_error {stop : Stop} (scans : Scans t (.error stop : Scan α)) :
    Scans t (.error stop : Scan β) := by
  cases scans with
  | problem kind left => exact .problem kind left
  | tooLong count long => exact .tooLong count long

theorem scans_map (f : α → β) {scan : Scan α} (scans : Scans t scan) :
    Scans t (scan.map fun (a, rest) => (f a, rest)) := by
  cases scans with
  | read a rest ends => exact .read (f a) rest ends
  | problem kind left => exact .problem kind left
  | tooLong count long => exact .tooLong count long

theorem scans_stopAt (kind : Problem) (rest : Text) :
    Scans t (stopAt kind rest : Scan α) := .problem kind rest.length

theorem skipSpace_suffix (t : Text) : skipSpace t <:+ t := List.dropWhile_suffix isSpace

theorem splitDigits_append (t : Text) : ∃ run, t = run ++ (splitDigits t).2 ∧
    run.length = (splitDigits t).1.length ∧ ∀ c ∈ run, (digitOf? c).isSome = true := by
  induction t with
  | nil => exact ⟨[], rfl, rfl, nofun⟩
  | cons c rest ih =>
      cases digit : digitOf? c with
      | none => exact ⟨[], by simp [splitDigits, digit]⟩
      | some d =>
          obtain ⟨run, split, counted, digits⟩ := ih
          refine ⟨c :: run, ?_, ?_, ?_⟩
          · simp only [splitDigits, digit, List.cons_append, ← split]
          · simp only [splitDigits, digit, List.length_cons, counted]
          · rw [List.forall_mem_cons, digit]
            exact ⟨rfl, digits⟩

theorem splitDigits_suffix (t : Text) : (splitDigits t).2 <:+ t := by
  obtain ⟨run, split, _⟩ := splitDigits_append t
  exact ⟨run, split.symm⟩

theorem splitWhole_suffix (t : Text) : (splitWhole t).2 <:+ t := by
  unfold splitWhole
  split
  · exact List.tail_suffix t
  · exact splitDigits_suffix t

theorem splitWhole_long (beyond : Text.digitLimit < (splitWhole t).1.length) :
    LongRun t (splitWhole t).1.length := by
  unfold splitWhole at beyond ⊢
  split at beyond
  · exact absurd beyond (show ¬ Text.digitLimit < 1 by decide)
  · obtain ⟨run, split, counted, digits⟩ := splitDigits_append t
    exact ⟨beyond, run, ⟨[], (splitDigits t).2, split.symm⟩, counted, digits⟩

theorem splitDigits_of_digits {t : Text} (digits : ∀ c ∈ t, (digitOf? c).isSome = true) :
    (splitDigits t).1.length = t.length ∧ (splitDigits t).2 = [] := by
  induction t with
  | nil => exact ⟨rfl, rfl⟩
  | cons c rest ih =>
      obtain ⟨first, others⟩ := List.forall_mem_cons.mp digits
      obtain ⟨d, same⟩ := Option.isSome_iff_exists.mp first
      obtain ⟨counted, ended⟩ := ih others
      simp only [splitDigits, same, List.length_cons, counted, ended, and_self]

theorem splitFraction_suffix {digits : List Nat} {rest : Text}
    (found : splitFraction t = some (digits, rest)) : rest <:+ t := by
  unfold splitFraction at found
  split at found
  · rename_i c tail
    split at found
    · have ends := splitDigits_suffix tail
      split at found
      · cases found
      · have same := Option.some.inj found
        rw [same] at ends
        exact ends.trans (List.suffix_cons c tail)
    · cases found
  · cases found

theorem splitSign_suffix (t : Text) : (Text.splitSign t).2 <:+ t := by
  unfold Text.splitSign
  split
  · exact List.suffix_rfl
  · rename_i c rest
    split
    · exact List.suffix_cons c rest
    · split
      · exact List.suffix_cons c rest
      · exact List.suffix_rfl

theorem splitExponent_suffix {power : Int} {rest : Text}
    (found : splitExponent t = some (power, rest)) : rest <:+ t := by
  unfold splitExponent at found
  split at found
  · rename_i c tail
    split at found
    · have ends := (splitDigits_suffix (Text.splitSign tail).2).trans (splitSign_suffix tail)
      dsimp only at found
      split at found
      · cases found
      · rename_i same
        cases found
        rw [same] at ends
        exact ends.trans (List.suffix_cons c tail)
    · cases found
  · cases found

theorem after_suffix {word rest : Text} (found : after? word t = some rest) : rest <:+ t := by
  fun_induction after? word t with
  | case1 t =>
      cases found
      exact List.suffix_rfl
  | case2 word c t ih => exact (ih found).trans (List.suffix_cons c t)
  | case3 => cases found
  | case4 => cases found

theorem scanText_scans (start : Nat) (afterHigh : Bool) (done t : Text) :
    Scans t (scanText start afterHigh done t) := by
  fun_induction scanText start afterHigh done t with
  | case1 => exact .problem _ _
  | case2 afterHigh done rest => exact .read _ rest (List.suffix_cons _ rest)
  | case3 => exact .problem _ _
  | case4 => exact scans_stopAt _ _
  | case5 => exact scans_stopAt _ _
  | case6 afterHigh done h₁ h₂ h₃ h₄ rest unit hex nonempty slash ih =>
      exact scans_of_suffix (List.suffix_append [_, _, h₁, h₂, h₃, h₄] rest) ih
  | case7 => exact scans_stopAt _ _
  | case8 afterHigh done letter rest other code found slash ih =>
      exact scans_of_suffix (List.suffix_append [_, letter] rest) ih
  | case9 => exact scans_stopAt _ _
  | case10 => exact scans_stopAt _ _
  | case11 afterHigh done c rest noQuote noSlash printable ih =>
      exact scans_of_suffix (List.suffix_cons c rest) ih

theorem scanNumber_scans (t : Text) : Scans t (scanNumber t) := by
  unfold scanNumber
  split
  rename_i negative unsigned sign
  have behindSign : unsigned <:+ t := by
    split at sign
    · rename_i c rest
      split at sign
      · cases sign
        exact List.suffix_cons c unsigned
      · cases sign
        exact List.suffix_rfl
    · cases sign
      exact List.suffix_rfl
  apply scans_of_suffix behindSign
  have behindWhole := splitWhole_suffix unsigned
  have long := splitWhole_long (t := unsigned)
  generalize splitWhole unsigned = parts at behindWhole long ⊢
  obtain ⟨whole, afterWhole⟩ := parts
  dsimp only at behindWhole long ⊢
  split
  · exact scans_stopAt _ _
  -- A number goes on with a fraction, with an exponent, with both or with neither.
  cases fraction : splitFraction afterWhole with
  | none =>
      cases exponent : splitExponent afterWhole with
      | none =>
          dsimp only [Option.getD_none]
          rw [exponent]
          dsimp only
          split
          · rename_i beyond
            exact .tooLong whole.length (long beyond)
          · exact .read _ afterWhole behindWhole
      | some tail =>
          dsimp only [Option.getD_none]
          rw [exponent]
          exact .read _ tail.2 ((splitExponent_suffix exponent).trans behindWhole)
  | some places =>
      have behindPlaces := (splitFraction_suffix fraction).trans behindWhole
      cases exponent : splitExponent places.2 with
      | none =>
          dsimp only [Option.getD_some]
          rw [exponent]
          exact .read _ places.2 behindPlaces
      | some tail =>
          dsimp only [Option.getD_some]
          rw [exponent]
          exact .read _ tail.2 ((splitExponent_suffix exponent).trans behindPlaces)

theorem scanScalar_scans (t : Text) : Scans t (scanScalar t) := by
  unfold scanScalar
  split
  · rename_i found listed
    obtain ⟨⟨word, value⟩, _, same⟩ := List.exists_of_findSome?_eq_some listed
    obtain ⟨rest, behind, same⟩ := Option.map_eq_some_iff.mp same
    cases same
    exact .read value rest (after_suffix behind)
  · exact scanNumber_scans t

end Parts

section Document
variable {t : Text}

section Step
variable {fuel : Nat}

theorem scanValue_scans (items : ∀ done t, Scans t (scanItems fuel done t))
    (members : ∀ done t, Scans t (scanMembers fuel done t)) (t : Text) :
    Scans t (scanValue (fuel + 1) t) := by
  cases t with
  | nil => exact scans_stopAt _ _
  | cons c rest =>
  rw [scanValue]
  have spaced := (skipSpace_suffix rest).trans (List.suffix_cons c rest)
  split
  · exact scans_of_suffix (List.suffix_cons c rest) (scans_map _ (scanText_scans _ _ _ rest))
  split
  · split
    · exact scans_stopAt _ _
    rename_i d tail opened
    rw [opened] at spaced
    split
    · exact .read _ tail ((List.suffix_cons d tail).trans spaced)
    · exact scans_of_suffix spaced (items _ _)
  split
  · split
    · exact scans_stopAt _ _
    rename_i d tail opened
    rw [opened] at spaced
    split
    · exact .read _ tail ((List.suffix_cons d tail).trans spaced)
    · exact scans_of_suffix spaced (members _ _)
  · exact scanScalar_scans (c :: rest)

theorem scanItems_scans (value : ∀ t, Scans t (scanValue fuel t))
    (items : ∀ done t, Scans t (scanItems fuel done t)) (done : List Json) (t : Text) :
    Scans t (scanItems (fuel + 1) done t) := by
  rw [scanItems]
  have first := value t
  cases found : scanValue fuel t with
  | error stop =>
      rw [found] at first
      exact scans_error first
  | ok read =>
      rw [found] at first
      obtain ⟨item, rest⟩ := read
      have behind := (skipSpace_suffix rest).trans (suffix_of_scans first)
      dsimp only
      split
      · exact scans_stopAt _ _
      rename_i c tail spaced
      rw [spaced] at behind
      have inner := (List.suffix_cons c tail).trans behind
      split
      · exact .read _ tail inner
      split
      · exact scans_of_suffix ((skipSpace_suffix tail).trans inner) (items _ _)
      · exact scans_stopAt _ _

theorem scanMembers_scans (value : ∀ t, Scans t (scanValue fuel t))
    (members : ∀ done t, Scans t (scanMembers fuel done t)) (done : List (Text × Json))
    (t : Text) : Scans t (scanMembers (fuel + 1) done t) := by
  cases t with
  | nil => exact scans_stopAt _ _
  | cons c rest =>
  rw [scanMembers]
  split
  swap
  · exact scans_stopAt _ _
  apply scans_of_suffix (List.suffix_cons c rest)
  have name := scanText_scans (c :: rest).length false [] rest
  cases named : scanText (c :: rest).length false [] rest with
  | error stop =>
      rw [named] at name
      exact scans_error name
  | ok read =>
      rw [named] at name
      obtain ⟨key, afterName⟩ := read
      have behind := (skipSpace_suffix afterName).trans (suffix_of_scans name)
      dsimp only
      split
      · exact scans_stopAt _ _
      rename_i d afterColon spaced
      rw [spaced] at behind
      split
      swap
      · exact scans_stopAt _ _
      have start := ((skipSpace_suffix afterColon).trans (List.suffix_cons d afterColon)).trans
        behind
      apply scans_of_suffix start
      have member := value (skipSpace afterColon)
      cases found : scanValue fuel (skipSpace afterColon) with
      | error stop =>
          rw [found] at member
          exact scans_error member
      | ok read =>
          rw [found] at member
          obtain ⟨document, afterValue⟩ := read
          have behind := (skipSpace_suffix afterValue).trans (suffix_of_scans member)
          dsimp only
          split
          · exact scans_stopAt _ _
          rename_i e tail spaced
          rw [spaced] at behind
          have inner := (List.suffix_cons e tail).trans behind
          split
          · exact .read _ tail inner
          split
          · exact scans_of_suffix ((skipSpace_suffix tail).trans inner) (members _ _)
          · exact scans_stopAt _ _

end Step

/-- Reading a value, the items of a list or the members of an object comes to one of these. -/
theorem scan_scans (fuel : Nat) : (∀ t, Scans t (scanValue fuel t)) ∧
    (∀ done t, Scans t (scanItems fuel done t)) ∧
    ∀ done t, Scans t (scanMembers fuel done t) := by
  induction fuel with
  | zero =>
      refine ⟨?_, ?_, ?_⟩
      · intro t
        rw [scanValue]
        exact scans_stopAt _ _
      · intro done t
        rw [scanItems]
        exact scans_stopAt _ _
      · intro done t
        rw [scanMembers]
        exact scans_stopAt _ _
  | succ fuel ih =>
      obtain ⟨value, items, members⟩ := ih
      refine ⟨?_, ?_, ?_⟩
      · exact scanValue_scans items members
      · exact scanItems_scans value items
      · exact scanMembers_scans value members

section Enough
variable {fuel : Nat}

theorem scanValue_enough
    (items : ∀ done t, 2 * t.length + 1 < fuel →
      scanItems (fuel + 1) done t = scanItems fuel done t)
    (members : ∀ done t, 2 * t.length + 1 < fuel →
      scanMembers (fuel + 1) done t = scanMembers fuel done t)
    (t : Text) (enough : 2 * t.length < fuel + 1) :
    scanValue (fuel + 2) t = scanValue (fuel + 1) t := by
  cases t with
  | nil => rw [scanValue, scanValue]
  | cons c rest =>
      have shorter := (skipSpace_suffix rest).length_le
      rw [List.length_cons] at enough
      rw [scanValue, scanValue]
      cases opened : skipSpace rest with
      | nil => rfl
      | cons d tail =>
          rw [opened] at shorter
          dsimp only
          rw [items [] (d :: tail) (by omega), members [] (d :: tail) (by omega)]

theorem scanItems_enough
    (value : ∀ t, 2 * t.length < fuel → scanValue (fuel + 1) t = scanValue fuel t)
    (items : ∀ done t, 2 * t.length + 1 < fuel →
      scanItems (fuel + 1) done t = scanItems fuel done t)
    (done : List Json) (t : Text) (enough : 2 * t.length + 1 < fuel + 1) :
    scanItems (fuel + 2) done t = scanItems (fuel + 1) done t := by
  have first := (scan_scans fuel).1 t
  rw [scanItems, scanItems, value t (by omega)]
  cases found : scanValue fuel t with
  | error stop => rfl
  | ok read =>
      obtain ⟨item, rest⟩ := read
      rw [found] at first
      have behind := ((skipSpace_suffix rest).trans (suffix_of_scans first)).length_le
      dsimp only
      cases spaced : skipSpace rest with
      | nil => rfl
      | cons c tail =>
          have shorter := (skipSpace_suffix tail).length_le
          rw [spaced, List.length_cons] at behind
          dsimp only
          rw [items (item :: done) (skipSpace tail) (by omega)]

theorem scanMembers_enough
    (value : ∀ t, 2 * t.length < fuel → scanValue (fuel + 1) t = scanValue fuel t)
    (members : ∀ done t, 2 * t.length + 1 < fuel →
      scanMembers (fuel + 1) done t = scanMembers fuel done t)
    (done : List (Text × Json)) (t : Text) (enough : 2 * t.length + 1 < fuel + 1) :
    scanMembers (fuel + 2) done t = scanMembers (fuel + 1) done t := by
  cases t with
  | nil => rw [scanMembers, scanMembers]
  | cons c rest =>
  have name := scanText_scans (c :: rest).length false [] rest
  rw [List.length_cons] at enough
  rw [scanMembers, scanMembers]
  cases named : scanText (c :: rest).length false [] rest with
  | error stop => rfl
  | ok read =>
      obtain ⟨key, afterName⟩ := read
      rw [named] at name
      have behind := ((skipSpace_suffix afterName).trans (suffix_of_scans name)).length_le
      dsimp only
      cases spaced : skipSpace afterName with
      | nil => rfl
      | cons d afterColon =>
          have start := (skipSpace_suffix afterColon).length_le
          rw [spaced, List.length_cons] at behind
          have member := (scan_scans fuel).1 (skipSpace afterColon)
          dsimp only
          rw [value (skipSpace afterColon) (by omega)]
          cases found : scanValue fuel (skipSpace afterColon) with
          | error stop => rfl
          | ok read =>
              obtain ⟨document, afterValue⟩ := read
              rw [found] at member
              have inner := ((skipSpace_suffix afterValue).trans (suffix_of_scans member)).length_le
              dsimp only
              cases ended : skipSpace afterValue with
              | nil => rfl
              | cons e tail =>
                  have shorter := (skipSpace_suffix tail).length_le
                  rw [ended, List.length_cons] at inner
                  dsimp only
                  rw [members (bindMember key document done) (skipSpace tail) (by omega)]

end Enough

theorem scan_enough (fuel : Nat) :
    (∀ t, 2 * t.length < fuel → scanValue (fuel + 1) t = scanValue fuel t) ∧
    (∀ done t, 2 * t.length + 1 < fuel → scanItems (fuel + 1) done t = scanItems fuel done t) ∧
    ∀ done t, 2 * t.length + 1 < fuel →
      scanMembers (fuel + 1) done t = scanMembers fuel done t := by
  induction fuel with
  | zero => exact ⟨nofun, nofun, nofun⟩
  | succ fuel ih =>
      obtain ⟨value, items, members⟩ := ih
      exact ⟨scanValue_enough items members, scanItems_enough value items,
        scanMembers_enough value members⟩

/-- Twice as many steps as there are code points are enough to read a document: with more of them
it comes to the same. -/
theorem scanValue_of_enough {fuel : Nat} (enough : 2 * t.length < fuel) (more : Nat) :
    scanValue (fuel + more) t = scanValue fuel t := by
  induction more with
  | zero => rfl
  | succ more ih =>
      rw [← ih]
      exact (scan_enough (fuel + more)).1 t (by omega)

theorem read_of_blank {blank : Text} (isBlank : ∀ c ∈ blank, isSpace c = true)
    (unmarked : t.head? ≠ some (Code.ofNat 0xFEFF)) (document : Json) :
    read (blank ++ t) = .ok document ↔ read t = .ok document := by
  have skipped : skipSpace (blank ++ t) = skipSpace t := List.dropWhile_append_of_pos isBlank
  have noMark : (blank ++ t).head? ≠ some (Code.ofNat 0xFEFF) := by
    cases blank with
    | nil => exact unmarked
    | cons c rest =>
        intro same
        have bad := isBlank c List.mem_cons_self
        rw [Option.some.inj same] at bad
        cases bad
  have steps : 2 * (blank ++ t).length + 2 = 2 * t.length + 2 + 2 * blank.length := by
    rw [List.length_append]
    omega
  have shorter := (skipSpace_suffix t).length_le
  have scanned : scanDocument (blank ++ t) = scanDocument t := by
    rw [scanDocument, scanDocument, if_neg noMark, if_neg unmarked, skipped, steps,
      scanValue_of_enough (by omega)]
  unfold read
  rw [scanned]
  cases scanDocument t <;> simp [Except.mapError]

/-- A document is refused for an integer that is too long only if the text has a run of as many
digits. -/
theorem longRun_of_read {count : Nat} (failed : read t = .error (.tooManyDigits count)) :
    LongRun t count := by
  unfold read scanDocument at failed
  split at failed
  · cases failed
  have document := (scan_scans (2 * t.length + 2)).1 (skipSpace t)
  cases found : scanValue (2 * t.length + 2) (skipSpace t) with
  | error stop =>
      rw [found] at failed document
      cases document with
      | problem kind left => cases failed
      | tooLong digits long =>
          cases failed
          exact longRun_of_suffix (skipSpace_suffix t) long
  | ok read =>
      rw [found] at failed
      dsimp only at failed
      split at failed <;> cases failed

section Digits
variable {c : Code} {rest : Text}

theorem scanNumber_of_digits (leading : 0x31 ≤ c.val ∧ c.val ≤ 0x39)
    (digits : ∀ d ∈ rest, (digitOf? d).isSome = true)
    (long : Text.digitLimit < (c :: rest).length) :
    scanNumber (c :: rest) = .error (.tooManyDigits (c :: rest).length) := by
  obtain ⟨counted, ended⟩ := splitDigits_of_digits digits
  have first : digitOf? c = some (c.val - 0x30) := if_pos ⟨by omega, leading.2⟩
  have whole : splitWhole (c :: rest) = ((c.val - 0x30) :: (splitDigits rest).1, []) := by
    have positive : c.val - 0x30 ≠ 0 := by omega
    rw [splitWhole, splitDigits, first]
    dsimp only
    split
    · rename_i same
      rw [Prod.mk.injEq, List.cons.injEq] at same
      exact absurd same.1.1 positive
    · rw [ended]
  have unsigned : c ≠ Code.ofChar '-' := by
    rintro rfl
    exact absurd leading (by decide)
  rw [scanNumber, if_neg unsigned]
  dsimp only
  rw [whole]
  dsimp only
  rw [if_neg (List.cons_ne_nil _ _), List.length_cons, counted]
  exact if_pos long

theorem read_of_digits (leading : 0x31 ≤ c.val ∧ c.val ≤ 0x39)
    (digits : ∀ d ∈ rest, (digitOf? d).isSome = true)
    (long : Text.digitLimit < (c :: rest).length) :
    read (c :: rest) = .error (.tooManyDigits (c :: rest).length) := by
  have other {d : Code} (outside : ¬ (0x31 ≤ d.val ∧ d.val ≤ 0x39)) : c ≠ d := by
    rintro rfl
    exact outside leading
  have spaced : skipSpace (c :: rest) = c :: rest := by
    apply List.dropWhile_cons_of_neg
    simp only [isSpace, Bool.or_eq_true, beq_iff_eq]
    omega
  have noWord : ∀ entry ∈ words, after? entry.1 (c :: rest) = none := by
    intro entry listed
    simp only [words, List.mem_cons, List.not_mem_nil, or_false] at listed
    rcases listed with rfl | rfl | rfl | rfl | rfl | rfl
    all_goals exact if_neg (other (by decide)).symm
  have number : scanScalar (c :: rest) = scanNumber (c :: rest) := by
    unfold scanScalar
    split
    · rename_i found listed
      obtain ⟨entry, member, same⟩ := List.exists_of_findSome?_eq_some listed
      obtain ⟨tail, behind, _⟩ := Option.map_eq_some_iff.mp same
      rw [noWord entry member] at behind
      cases behind
    · rfl
  have unmarked : (c :: rest).head? ≠ some (Code.ofNat 0xFEFF) := by
    intro same
    exact other (by decide) (Option.some.inj same)
  rw [read, scanDocument, if_neg unmarked, spaced, scanValue, if_neg (other (by decide)),
    if_neg (other (by decide)), if_neg (other (by decide)), number,
    scanNumber_of_digits leading digits long]
  rfl

end Digits

end Document

end TensorBundle.Json
