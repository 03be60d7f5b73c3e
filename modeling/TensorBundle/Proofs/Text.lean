import Mathlib
import TensorBundle.Text
import TensorBundle.Text.Encoding
/-!
Texts: their order, in which at the first code point that differs the smaller one comes first; the
numbers written in them in decimal, whose value the number is; and what decoding can yield, for no
surrogate is spelled in UTF-8, and none comes of reading it.
-/
namespace TensorBundle.Text

theorem precedes_iff (s t : Text) : precedes s t = true ↔ ¬ t < s := by
  induction s generalizing t with
  | nil => simp [precedes]
  | cons a s ih =>
      cases t with
      | nil => simp [precedes]
      | cons b t =>
          rw [List.cons_lt_cons_iff]
          by_cases same : a = b
          · subst same
            simp [precedes, ih]
          · have apart : ¬ b = a := Ne.symm same
            have below : a < b ↔ ¬ b < a :=
              ⟨not_lt_of_gt, fun notAbove => lt_of_le_of_ne (not_lt.mp notAbove) same⟩
            rw [precedes, if_neg same, decide_eq_true_eq, ← Fin.lt_def, below]
            simp [apart]

theorem precedes_trans (s t u : Text) (first : precedes s t = true) (second : precedes t u = true) :
    precedes s u = true := by
  rw [precedes_iff, not_lt] at first second ⊢
  exact first.trans second

theorem precedes_total (s t : Text) : (precedes s t || precedes t s) = true := by
  rw [Bool.or_eq_true, precedes_iff, precedes_iff, not_lt, not_lt]
  exact le_total s t

theorem sorted_perm (ts : List Text) : (sorted ts).Perm ts := List.mergeSort_perm ts precedes

theorem mem_sorted (t : Text) (ts : List Text) : t ∈ sorted ts ↔ t ∈ ts := (sorted_perm ts).mem_iff

theorem sorted_increasing {ts : List Text} (distinct : ts.Nodup) :
    (sorted ts).Pairwise (· < ·) := by
  have ordered := List.pairwise_mergeSort precedes_trans precedes_total ts
  have apart := (sorted_perm ts).nodup_iff.mpr distinct
  refine (ordered.and apart).imp fun {s t} both => ?_
  exact lt_of_le_of_ne (not_lt.mp ((precedes_iff s t).mp both.1)) both.2

def digits (n : Nat) : List Nat := if n = 0 then [0] else (Nat.digits 10 n).reverse

theorem prependDigits_eq (n : Nat) (rest : Text) :
    prependDigits n rest = (digits n).map digit ++ rest := by
  fun_induction prependDigits n rest with
  | case1 n rest small =>
      by_cases zero : n = 0
      · simp [digits, zero]
      · simp [digits, zero, Nat.digits_of_lt 10 n zero small]
  | case2 n rest large ih =>
      have positive : 0 < n := by omega
      have more : n / 10 ≠ 0 := by omega
      have split : Nat.digits 10 n = n % 10 :: Nat.digits 10 (n / 10) :=
        Nat.digits_def' (by decide) positive
      rw [ih, digits, digits, if_neg more, if_neg positive.ne', split]
      simp

theorem natural_eq (n : Nat) : natural n = (digits n).map digit := by
  rw [natural, prependDigits_eq, List.append_nil]

theorem digits_lt {n d : Nat} (member : d ∈ digits n) : d < 10 := by
  unfold digits at member
  split at member
  · rw [List.mem_singleton.mp member]
    decide
  · exact Nat.digits_lt_base (by decide) (List.mem_reverse.mp member)

theorem exists_digits (n : Nat) :
    (∃ d ds, digits n = d :: ds ∧ d ≠ 0) ∨ n = 0 ∧ digits n = [0] := by
  by_cases zero : n = 0
  · exact Or.inr ⟨zero, by simp [digits, zero]⟩
  · have some : Nat.digits 10 n ≠ [] := Nat.digits_ne_nil_iff_ne_zero.mpr zero
    have leading := Nat.getLast_digit_ne_zero 10 zero
    refine Or.inl ⟨(Nat.digits 10 n).getLast some, (Nat.digits 10 n).dropLast.reverse, ?_, leading⟩
    have split := congrArg List.reverse (List.dropLast_append_getLast some)
    rw [digits, if_neg zero, ← split]
    simp

theorem natural_cons (n : Nat) : ∃ d tail, d < 10 ∧ natural n = digit d :: tail := by
  rw [natural_eq]
  rcases exists_digits n with ⟨d, ds, written, _⟩ | ⟨_, written⟩
  · refine ⟨d, ds.map digit, ?_, by rw [written, List.map_cons]⟩
    exact digits_lt (n := n) (written ▸ List.mem_cons_self ..)
  · exact ⟨0, [], by decide, by rw [written]; rfl⟩

theorem length_digits {n k : Nat} (positive : 0 < k) (small : n < 10 ^ k) :
    (digits n).length ≤ k := by
  unfold digits
  split
  · exact positive
  · rw [List.length_reverse]
    exact (Nat.digits_length_le_iff (by decide) n).mpr small

theorem valueOfDigits_eq (ds : List Nat) : valueOfDigits ds = Nat.ofDigits 10 ds.reverse := by
  rw [Nat.ofDigits_eq_foldr, ← List.foldl_reverse, List.reverse_reverse, valueOfDigits]
  simp only [Nat.cast_id, Nat.mul_comm 10, Nat.add_comm]

theorem valueOfDigits_digits (n : Nat) : valueOfDigits (digits n) = n := by
  unfold digits
  split
  · rename_i zero
    exact zero.symm
  · rw [valueOfDigits_eq, List.reverse_reverse, Nat.ofDigits_digits]

theorem valueOfDigits_lt {ds : List Nat} (decimal : ∀ d ∈ ds, d < 10) :
    valueOfDigits ds < 10 ^ ds.length := by
  rw [valueOfDigits_eq, ← List.length_reverse]
  apply Nat.ofDigits_lt_base_pow_length (by decide)
  intro d member
  exact decimal d (List.mem_reverse.mp member)

end TensorBundle.Text

namespace TensorBundle

theorem Code.digitValue_lt {c : Code} {d : Nat} (known : c.digitValue? = some d) : d < 10 := by
  obtain ⟨start, found, rfl⟩ := Option.map_eq_some_iff.mp known
  have inside := List.find?_some found
  simp only [Bool.and_eq_true, decide_eq_true_eq] at inside
  omega

theorem Text.toInteger_lt {t : Text} {n : Int} (given : t.toInteger = .ok n) :
    n.natAbs < 10 ^ digitLimit := by
  unfold toInteger at given
  split at given
  rename_i negative number _
  dsimp only at given
  generalize List.takeWhile isNumeral number = numeral at given
  have decimal : ∀ d ∈ numeral.filterMap Code.digitValue?, d < 10 := by
    intro d listed
    obtain ⟨c, _, known⟩ := List.mem_filterMap.mp listed
    exact Code.digitValue_lt known
  generalize numeral.filterMap Code.digitValue? = digits at given decimal
  split at given
  · cases given
  split at given
  · cases given
  rename_i short
  split at given
  · cases given
  cases given
  have small := (valueOfDigits_lt decimal).trans_le
    (Nat.pow_le_pow_right (by decide) (not_lt.mp short))
  cases negative <;> simpa using small

/-- A text in which every code point is a character of its own. -/
def Text.NoSurrogate (t : Text) : Prop :=
  ∀ c ∈ t, c.isHighSurrogate = false ∧ c.isLowSurrogate = false

namespace Utf8

/-- Whatever continuation bytes follow, as many as are owed, the bits make up a code point that is
no surrogate. -/
def Spells (bits : Nat) : (owed : Nat) → Prop
  | 0 => bits < 0x110000 ∧ ¬ (0xD800 ≤ bits ∧ bits < 0xE000)
  | owed + 1 => ∀ b, 0x80 ≤ b → b ≤ 0xBF → Spells (bits * 64 + (b - 0x80)) owed

def Pending.Spells (p : Pending) : Prop :=
  ∀ b, p.low ≤ b → b ≤ p.high → Utf8.Spells (p.bits * 64 + (b - 0x80)) (p.owed - 1)

theorem start_spells {offset b : Nat} {p : Pending} (started : Pending.start? offset b = some p) :
    p.Spells := by
  unfold Pending.start? at started
  -- Two, three or four bytes, by the first of them.
  split at started
  · cases started
  split at started
  · cases started
    intro c low high
    change _ < _ ∧ ¬ (_ ≤ _ ∧ _ < _)
    dsimp only at low high ⊢
    omega
  split at started
  · cases started
    intro c low high d low' high'
    change _ < _ ∧ ¬ (_ ≤ _ ∧ _ < _)
    dsimp only at low high ⊢
    split at low <;> split at high <;> omega
  split at started
  · cases started
    intro c low high d low' high' e low'' high''
    change _ < _ ∧ ¬ (_ ≤ _ ∧ _ < _)
    dsimp only at low high ⊢
    split at low <;> split at high <;> omega
  · cases started

theorem noSurrogate_cons {n : Nat} {t : Text} (spelled : Utf8.Spells n 0) (done : t.NoSurrogate) :
    Text.NoSurrogate (Code.ofNat n :: t) := by
  obtain ⟨inRange, plain⟩ := spelled
  intro c member
  rcases List.mem_cons.mp member with rfl | old
  · have value : (Code.ofNat n).val = n := Nat.mod_eq_of_lt inRange
    simp only [Code.isHighSurrogate, Code.isLowSurrogate, value, Bool.and_eq_false_iff,
      decide_eq_false_iff_not]
    omega
  · exact done c old

theorem decodeFrom_noSurrogate {bytes : List UInt8} {offset : Nat} {pending : Option Pending}
    {done t : Text} (spells : ∀ p, pending = some p → p.Spells) (before : done.NoSurrogate)
    (decoded : decodeFrom offset pending done bytes = .ok t) : t.NoSurrogate := by
  induction bytes generalizing offset pending done with
  | nil =>
      cases pending with
      | some p => cases decoded
      | none =>
          cases decoded
          intro c member
          exact before c (List.mem_reverse.mp member)
  | cons b rest ih =>
      cases pending with
      | none =>
          rw [decodeFrom] at decoded
          split at decoded
          · rename_i ascii
            have spelled : Utf8.Spells b.toNat 0 := ⟨by omega, by omega⟩
            exact ih (fun _ none => by cases none) (noSurrogate_cons spelled before) decoded
          · split at decoded
            · cases decoded
            · rename_i p started
              refine ih ?_ before decoded
              rintro _ ⟨⟩
              exact start_spells started
      | some p =>
          rw [decodeFrom] at decoded
          split at decoded
          · rename_i fits
            rw [Bool.and_eq_true, decide_eq_true_eq, decide_eq_true_eq] at fits
            have next := spells p rfl b.toNat fits.1 fits.2
            dsimp only at decoded
            split at decoded
            · rename_i last
              rw [show p.owed - 1 = 0 by omega] at next
              exact ih (fun _ none => by cases none) (noSurrogate_cons next before) decoded
            · rename_i more
              refine ih ?_ before decoded
              rintro _ ⟨⟩
              rw [show p.owed - 1 = p.owed - 1 - 1 + 1 by omega] at next
              exact next
          · cases decoded

/-- A text that was decoded has no surrogate in it. -/
theorem decode_noSurrogate {bytes : List UInt8} {t : Text} (decoded : decode bytes = .ok t) :
    t.NoSurrogate :=
  decodeFrom_noSurrogate (fun _ none => by cases none)
    (fun _ member => absurd member List.not_mem_nil) decoded

end Utf8
end TensorBundle
