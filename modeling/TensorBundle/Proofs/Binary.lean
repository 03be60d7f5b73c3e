import Mathlib
import TensorBundle.Binary
/-!
The rational numbers that binary floating-point numbers stand for. Sums and products stand for
those of rational numbers, and rounding leaves a number alone that a format has room for; every
integer of a few bits is one, and what is written in bits or bytes is read again. Too large for a
format are the numbers that lie at least half a step beyond its greatest number: the number half a
step beyond is a tie, and rounding takes it to the even side, which is out of range.
-/
namespace TensorBundle.Binary

def value? : Binary → Option ℚ
  | .finite negative m q => some ((if negative then (-1 : ℚ) else 1) * ((m : ℚ) * 2 ^ q))
  | _ => none

theorem value_finite (negative : Bool) (m : Nat) (q : Int) :
    (Binary.finite negative m q).value? =
      some ((if negative then (-1 : ℚ) else 1) * ((m : ℚ) * 2 ^ q)) := rfl

theorem finite_of_value {x : Binary} {r : ℚ} (known : x.value? = some r) :
    ∃ negative m q, x = .finite negative m q ∧
      r = (if negative then (-1 : ℚ) else 1) * ((m : ℚ) * 2 ^ q) := by
  cases x with
  | nan => cases known
  | infinite negative => cases known
  | finite negative m q => exact ⟨negative, m, q, rfl, (Option.some.inj known).symm⟩

theorem sign_mul_natAbs (n : Int) :
    (if decide (n < 0) then (-1 : ℚ) else 1) * (n.natAbs : ℚ) = n := by
  rcases lt_or_ge n 0 with negative | positive
  · have magnitude : ((n.natAbs : Int) : ℚ) = ((-n : Int) : ℚ) :=
      congrArg Int.cast (Int.ofNat_natAbs_of_nonpos negative.le)
    rw [Int.cast_natCast] at magnitude
    simp [negative, magnitude]
  · have magnitude : ((n.natAbs : Int) : ℚ) = (n : ℚ) :=
      congrArg Int.cast (Int.natAbs_of_nonneg positive)
    rw [Int.cast_natCast] at magnitude
    simp [positive, magnitude]

theorem value_ofInt (n : Int) : (ofInt n).value? = some (n : ℚ) := by
  rw [ofInt, value_finite, zpow_zero, mul_one, sign_mul_natAbs]

theorem value_mul {x y : Binary} {r s : ℚ} (left : x.value? = some r) (right : y.value? = some s) :
    (x.mul y).value? = some (r * s) := by
  obtain ⟨a, m, p, rfl, rfl⟩ := finite_of_value left
  obtain ⟨b, n, q, rfl, rfl⟩ := finite_of_value right
  have power : (2 : ℚ) ^ (p + q) = 2 ^ p * 2 ^ q := zpow_add₀ two_ne_zero p q
  rw [mul, value_finite, power]
  congr 1
  cases a <;> cases b <;> simp <;> ring

theorem scaledTo_mul (negative : Bool) (m : Nat) (q exponent : Int) (below : exponent ≤ q) :
    (scaledTo negative m q exponent : ℚ) * 2 ^ exponent =
      (if negative then (-1 : ℚ) else 1) * ((m : ℚ) * 2 ^ q) := by
  have power : (2 : ℚ) ^ (q - exponent).toNat * 2 ^ exponent = 2 ^ q := by
    rw [← zpow_natCast, ← zpow_add₀ two_ne_zero]
    congr 1
    omega
  rw [← power]
  cases negative with
  | false =>
      simp only [scaledTo, Bool.false_eq_true, if_false, Nat.pow_eq]
      push_cast
      ring
  | true =>
      simp only [scaledTo, if_true, Nat.pow_eq]
      push_cast
      ring

theorem value_add {x y : Binary} {r s : ℚ} (left : x.value? = some r) (right : y.value? = some s) :
    (x.add y).value? = some (r + s) := by
  obtain ⟨a, m, p, rfl, rfl⟩ := finite_of_value left
  obtain ⟨b, n, q, rfl, rfl⟩ := finite_of_value right
  -- Both are counted in units of the smaller power, as the sum is.
  rw [← scaledTo_mul a m p (min p q) (min_le_left p q),
    ← scaledTo_mul b n q (min p q) (min_le_right p q), ← add_mul, ← Int.cast_add]
  simp only [add]
  generalize scaledTo a m p (min p q) + scaledTo b n q (min p q) = total
  by_cases cancelled : total = 0
  · simp [cancelled, value_finite]
  · simp only [cancelled, if_false, value_finite]
    rw [← mul_assoc, sign_mul_natAbs]

theorem value_neg {x : Binary} {r : ℚ} (known : x.value? = some r) : x.neg.value? = some (-r) := by
  obtain ⟨negative, m, q, rfl, rfl⟩ := finite_of_value known
  rw [neg, value_finite]
  cases negative <;> simp

theorem value_sub {x y : Binary} {r s : ℚ} (left : x.value? = some r) (right : y.value? = some s) :
    (x.sub y).value? = some (r - s) := by
  rw [sub_eq_add_neg]
  exact value_add left (value_neg right)

namespace Format

/-- What a format needs to be one: bits for its significands, and steps on both sides of one. -/
structure IsRegular (f : Format) : Prop where
  precise : 1 ≤ f.precision
  fine : f.least ≤ 0
  coarse : 0 ≤ f.greatest
  wide : f.precision + 2 ≤ f.width
  filled : f.greatest = f.least + (2 ^ (f.width - f.precision) - 3 : Nat)

theorem single_isRegular : single.IsRegular := by
  constructor <;> decide

theorem double_isRegular : double.IsRegular := by
  constructor <;> decide

/-- The finite numbers of a format as it writes them: with as many bits as there are, unless the
step is the least one. -/
structure Has (f : Format) (m : Nat) (q : Int) : Prop where
  short : m < 2 ^ f.precision
  above : f.least ≤ q
  below : q ≤ f.greatest
  full : 2 ^ (f.precision - 1) ≤ m ∨ q = f.least

theorem roundQuotient_of_dvd {num den : Nat} (positive : 0 < den) (whole : den ∣ num) :
    roundQuotient num den = num / den := by
  simp [roundQuotient, Nat.mod_eq_zero_of_dvd whole, positive]

theorem lengthened {f : Format} {m : Nat} {q step : Int} (positive : m ≠ 0) (inside : step ≤ q)
    (reach : q + (m.log2 + 1 : Nat) - f.precision ≤ step) :
    ((m * 2 ^ (q - step).toNat : Nat) : ℚ) * 2 ^ step = m * 2 ^ q ∧
      m * 2 ^ (q - step).toNat < 2 ^ f.precision ∧
      (step = q + (m.log2 + 1 : Nat) - f.precision →
        2 ^ (f.precision - 1) ≤ m * 2 ^ (q - step).toNat) := by
  have upper : m < 2 ^ (m.log2 + 1) := Nat.lt_log2_self
  have lower : 2 ^ m.log2 ≤ m := Nat.log2_self_le positive
  refine ⟨?_, ?_, ?_⟩
  · rw [Nat.cast_mul, Nat.cast_pow, Nat.cast_ofNat, mul_assoc, ← zpow_natCast,
      ← zpow_add₀ two_ne_zero]
    congr 2
    omega
  · calc m * 2 ^ (q - step).toNat < 2 ^ (m.log2 + 1) * 2 ^ (q - step).toNat :=
          Nat.mul_lt_mul_of_pos_right upper (Nat.two_pow_pos _)
      _ = 2 ^ (m.log2 + 1 + (q - step).toNat) := (pow_add 2 _ _).symm
      _ ≤ 2 ^ f.precision := Nat.pow_le_pow_right two_pos (by omega)
  · intro exact
    calc 2 ^ (f.precision - 1) ≤ 2 ^ (m.log2 + (q - step).toNat) :=
          Nat.pow_le_pow_right two_pos (by omega)
      _ = 2 ^ m.log2 * 2 ^ (q - step).toNat := pow_add 2 _ _
      _ ≤ m * 2 ^ (q - step).toNat := Nat.mul_le_mul_right _ lower

theorem shortened {f : Format} {m s : Nat} {q step : Int} (precise : 1 ≤ f.precision)
    (positive : m ≠ 0) (outside : q < step) (whole : m = 2 ^ (step - q).toNat * s)
    (reach : q + (m.log2 + 1 : Nat) - f.precision ≤ step) :
    (s : ℚ) * 2 ^ step = m * 2 ^ q ∧ s < 2 ^ f.precision ∧
      (step = q + (m.log2 + 1 : Nat) - f.precision → 2 ^ (f.precision - 1) ≤ s) := by
  have upper : m < 2 ^ (m.log2 + 1) := Nat.lt_log2_self
  have lower : 2 ^ m.log2 ≤ m := Nat.log2_self_le positive
  refine ⟨?_, ?_, ?_⟩
  · have power : (2 : ℚ) ^ step = 2 ^ (step - q).toNat * 2 ^ q := by
      rw [← zpow_natCast, ← zpow_add₀ two_ne_zero]
      congr 1
      omega
    rw [power, whole]
    push_cast
    ring
  · have room : 2 ^ (step - q).toNat * s < 2 ^ (step - q).toNat * 2 ^ f.precision := by
      calc 2 ^ (step - q).toNat * s = m := whole.symm
        _ < 2 ^ (m.log2 + 1) := upper
        _ ≤ 2 ^ ((step - q).toNat + f.precision) := Nat.pow_le_pow_right two_pos (by omega)
        _ = _ := pow_add 2 _ _
    exact lt_of_mul_lt_mul_left room (Nat.zero_le _)
  · intro exact
    have room : 2 ^ (step - q).toNat * 2 ^ (f.precision - 1) ≤ 2 ^ (step - q).toNat * s := by
      calc 2 ^ (step - q).toNat * 2 ^ (f.precision - 1)
          = 2 ^ ((step - q).toNat + (f.precision - 1)) := (pow_add 2 _ _).symm
        _ ≤ 2 ^ m.log2 := Nat.pow_le_pow_right two_pos (by omega)
        _ ≤ m := lower
        _ = _ := whole
    exact Nat.le_of_mul_le_mul_left room (Nat.two_pow_pos _)

theorem exists_significand {f : Format} (regular : f.IsRegular) (m : Nat) (q : Int)
    (positive : m ≠ 0) (whole : q < f.stepOf m q → 2 ^ (f.stepOf m q - q).toNat ∣ m) :
    ∃ s : Nat, s = (if f.stepOf m q ≤ q then m * 2 ^ (q - f.stepOf m q).toNat
        else roundQuotient m (2 ^ (f.stepOf m q - q).toNat)) ∧
      (s : ℚ) * 2 ^ f.stepOf m q = m * 2 ^ q ∧ s < 2 ^ f.precision ∧
      (2 ^ (f.precision - 1) ≤ s ∨ f.stepOf m q = f.least) := by
  have reach : q + (m.log2 + 1 : Nat) - f.precision ≤ f.stepOf m q := le_max_left _ _
  have either : f.stepOf m q = q + (m.log2 + 1 : Nat) - f.precision ∨ f.stepOf m q = f.least :=
    max_choice _ _
  generalize f.stepOf m q = step at *
  refine ⟨_, rfl, ?_⟩
  by_cases inside : step ≤ q
  · obtain ⟨value, short, full⟩ := lengthened positive inside reach
    rw [if_pos inside]
    exact ⟨value, short, either.imp_left full⟩
  · have outside : q < step := not_le.mp inside
    obtain ⟨s, parts⟩ := whole outside
    obtain ⟨value, short, full⟩ := shortened regular.precise positive outside parts reach
    have divided : roundQuotient m (2 ^ (step - q).toNat) = s := by
      rw [roundQuotient_of_dvd (Nat.two_pow_pos _) ⟨s, parts⟩, parts,
        Nat.mul_div_cancel_left s (Nat.two_pow_pos _)]
    rw [if_neg inside, divided]
    exact ⟨value, short, either.imp_left full⟩

/-- A number whose step is in range and divides it is not changed by rounding. -/
theorem roundFinite_exact {f : Format} (regular : f.IsRegular) (negative : Bool) (m : Nat) (q : Int)
    (positive : m ≠ 0) (whole : q < f.stepOf m q → 2 ^ (f.stepOf m q - q).toNat ∣ m)
    (range : f.stepOf m q ≤ f.greatest) :
    ∃ s, f.roundFinite negative m q = .finite negative s (f.stepOf m q) ∧
      (s : ℚ) * 2 ^ f.stepOf m q = m * 2 ^ q ∧ f.Has s (f.stepOf m q) := by
  obtain ⟨s, rounded, value, short, full⟩ :=
    exists_significand regular m q positive whole
  refine ⟨s, ?_, value, short, le_max_right _ _, range, full⟩
  simp only [roundFinite, positive, if_false, Nat.pow_eq, ← rounded, short.ne, not_lt.mpr range]

theorem stepOf_nonpos {f : Format} (regular : f.IsRegular) {m : Nat} {q : Int} (positive : m ≠ 0)
    (small : (m : ℚ) * 2 ^ q < 2 ^ f.precision) : f.stepOf m q ≤ 0 := by
  have lower : ((2 ^ m.log2 : Nat) : ℚ) ≤ m := Nat.cast_le.mpr (Nat.log2_self_le positive)
  have power : (2 : ℚ) ^ ((m.log2 : Int) + q) < 2 ^ (f.precision : Int) := by
    rw [zpow_add₀ two_ne_zero, zpow_natCast, zpow_natCast]
    push_cast at lower
    exact lt_of_le_of_lt (mul_le_mul_of_nonneg_right lower (by positivity)) small
  have bits := (zpow_lt_zpow_iff_right₀ one_lt_two).mp power
  have fine := regular.fine
  exact max_le (by omega) fine

theorem dvd_of_integer {m : Nat} {q step : Int} {n : Int} (integer : (m : ℚ) * 2 ^ q = n)
    (below : q < step) (unit : step ≤ 0) : 2 ^ (step - q).toNat ∣ m := by
  have whole : (m : ℚ) = (n : ℚ) * 2 ^ (-q).toNat := by
    rw [← integer, ← zpow_natCast, mul_assoc, ← zpow_add₀ two_ne_zero]
    have cancelled : q + ((-q).toNat : Int) = 0 := by omega
    rw [cancelled, zpow_zero, mul_one]
  have wholeInt : (m : Int) = n * 2 ^ (-q).toNat := by exact_mod_cast whole
  have divides : (2 ^ (-q).toNat : Int) ∣ (m : Int) := ⟨n, by rw [wholeInt, mul_comm]⟩
  have dividesNat : 2 ^ (-q).toNat ∣ m := by exact_mod_cast divides
  exact (Nat.pow_dvd_pow 2 (by omega)).trans dividesNat

/-- Integers of as many bits as a format has are numbers of the format. -/
theorem round_integer {f : Format} (regular : f.IsRegular) {x : Binary} {n : Int}
    (integer : x.value? = some (n : ℚ)) (small : |n| < 2 ^ f.precision) :
    ∃ negative m q, f.round x = .finite negative m q ∧
      (f.round x).value? = some (n : ℚ) ∧ f.Has m q := by
  obtain ⟨negative, m, q, rfl, value⟩ := finite_of_value integer
  rw [round]
  -- Zero has no leading bit, so that it takes the least step there is.
  by_cases zero : m = 0
  · subst zero
    refine ⟨negative, 0, f.least, by simp [roundFinite], ?_, ?_⟩
    · simp [roundFinite, value_finite, value]
    · exact ⟨Nat.two_pow_pos _, le_rfl, regular.fine.trans regular.coarse, Or.inr rfl⟩
  · have magnitude : (m : ℚ) * 2 ^ q = (|n| : Int) := by
      rw [Int.cast_abs, value]
      cases negative <;> simp [abs_mul]
    have step : f.stepOf m q ≤ 0 := by
      apply stepOf_nonpos regular zero
      rw [magnitude]
      exact_mod_cast small
    obtain ⟨s, rounded, same, has⟩ := roundFinite_exact regular negative m q zero
      (fun below => dvd_of_integer magnitude below step) (step.trans regular.coarse)
    refine ⟨negative, s, f.stepOf m q, rounded, ?_, has⟩
    rw [rounded, value_finite, same, value]

end Format
end TensorBundle.Binary

namespace TensorBundle

namespace Bytes

theorem littleEndian_ofNat (count n : Nat) : littleEndian (ofNat count n) = n % 256 ^ count := by
  induction count generalizing n with
  | zero => simp [ofNat, littleEndian, Nat.mod_one]
  | succ count ih =>
      have byte : (UInt8.ofNat n).toNat = n % 256 := by simp
      rw [ofNat, littleEndian, ih, byte, pow_succ', Nat.mod_mul]

theorem littleEndian_ofNat_of_lt {count n : Nat} (room : n < 256 ^ count) :
    littleEndian (ofNat count n) = n := by
  rw [littleEndian_ofNat, Nat.mod_eq_of_lt room]

end Bytes

namespace Binary.Format

theorem fields_of_bits (sign exponent : Nat) {fraction exponents fractions : Nat}
    (low : fraction < fractions) (middle : exponent < exponents) (high : sign < 2) :
    let bits := sign * (exponents * fractions) + (exponent * fractions + fraction)
    bits / (exponents * fractions) % 2 = sign ∧ bits / fractions % exponents = exponent ∧
      bits % fractions = fraction := by
  have positive : 0 < fractions := by omega
  have rest : exponent * fractions + fraction < exponents * fractions := by
    calc exponent * fractions + fraction < (exponent + 1) * fractions := by
          rw [Nat.add_mul, Nat.one_mul]
          omega
      _ ≤ exponents * fractions := Nat.mul_le_mul_right _ middle
  have regrouped : sign * (exponents * fractions) + (exponent * fractions + fraction) =
      (sign * exponents + exponent) * fractions + fraction := by ring
  refine ⟨?_, ?_, ?_⟩
  · rw [Nat.mul_comm sign, Nat.mul_add_div (by omega), Nat.div_eq_of_lt rest, Nat.add_zero,
      Nat.mod_eq_of_lt high]
  · rw [regrouped, Nat.mul_comm _ fractions, Nat.mul_add_div positive, Nat.div_eq_of_lt low,
      Nat.add_zero, Nat.mul_comm sign, Nat.mul_add_mod, Nat.mod_eq_of_lt middle]
  · rw [regrouped, Nat.mul_comm _ fractions, Nat.mul_add_mod, Nat.mod_eq_of_lt low]

theorem IsRegular.signBit {f : Format} (regular : f.IsRegular) :
    2 ^ (f.width - 1) = 2 ^ (f.width - f.precision) * 2 ^ (f.precision - 1) := by
  have precise := regular.precise
  have wide := regular.wide
  rw [← pow_add]
  congr 1
  omega

theorem IsRegular.hiddenBit {f : Format} (regular : f.IsRegular) :
    2 ^ f.precision = 2 * 2 ^ (f.precision - 1) := by
  have precise := regular.precise
  rw [← pow_succ']
  congr 1
  omega

theorem IsRegular.exponents {f : Format} (regular : f.IsRegular) :
    4 ≤ 2 ^ (f.width - f.precision) := by
  have wide := regular.wide
  exact Nat.pow_le_pow_right two_pos (by omega : 2 ≤ f.width - f.precision)

theorem ofBits_toBits {f : Format} (regular : f.IsRegular) (negative : Bool) {m : Nat} {q : Int}
    (has : f.Has m q) : f.ofBits (f.toBits (.finite negative m q)) = .finite negative m q := by
  obtain ⟨short, above, below, full⟩ := has
  have filled := regular.filled
  have signs : negative.toNat < 2 := Bool.toNat_lt negative
  have split := regular.signBit
  have double := regular.hiddenBit
  have exponents := regular.exponents
  have bit : (decide (negative.toNat = 1)) = negative := by cases negative <;> rfl
  simp only [ofBits, toBits, fractionWidth, topExponent, Nat.pow_eq, split]
  -- Without a leading bit the exponent field is zero; with one, that bit is left out.
  by_cases subnormal : m < 2 ^ (f.precision - 1)
  · have least : q = f.least := full.resolve_left (not_le.mpr subnormal)
    have fields := fields_of_bits negative.toNat 0 subnormal
      (by omega : 0 < 2 ^ (f.width - f.precision)) signs
    rw [Nat.zero_mul, Nat.zero_add] at fields
    have notTop : ¬ 0 = 2 ^ (f.width - f.precision) - 1 := by omega
    simp only [subnormal, if_true, fields.1, fields.2.1, fields.2.2, notTop, if_false, bit, least]
  · have normal : 2 ^ (f.precision - 1) ≤ m := not_lt.mp subnormal
    have magnitude : (q - f.least).toNat * 2 ^ (f.precision - 1) + m =
        ((q - f.least).toNat + 1) * 2 ^ (f.precision - 1) + (m - 2 ^ (f.precision - 1)) := by
      rw [Nat.add_mul, Nat.one_mul]
      omega
    have exponent : (q - f.least).toNat + 1 < 2 ^ (f.width - f.precision) - 1 := by omega
    have fields := fields_of_bits negative.toNat ((q - f.least).toNat + 1)
      (by omega : m - 2 ^ (f.precision - 1) < 2 ^ (f.precision - 1))
      (by omega : _ < 2 ^ (f.width - f.precision)) signs
    simp only [subnormal, if_false, magnitude, fields.1, fields.2.1, fields.2.2, exponent.ne, bit,
      Nat.succ_ne_zero, Nat.add_sub_cancel]
    congr 1
    · omega
    · omega

theorem toBits_lt {f : Format} (regular : f.IsRegular) (negative : Bool) {m : Nat} {q : Int}
    (has : f.Has m q) : f.toBits (.finite negative m q) < 2 ^ f.width := by
  obtain ⟨short, above, below, full⟩ := has
  have filled := regular.filled
  have split := regular.signBit
  have double := regular.hiddenBit
  have whole : 2 ^ f.width = 2 * 2 ^ (f.width - 1) := by
    have wide := regular.wide
    rw [← pow_succ']
    congr 1
    omega
  have exponents := regular.exponents
  have magnitude : (if m < 2 ^ (f.precision - 1) then m
      else (q - f.least).toNat * 2 ^ (f.precision - 1) + m) < 2 ^ (f.width - 1) := by
    rw [split]
    split
    · exact lt_of_lt_of_le ‹_› (Nat.le_mul_of_pos_left _ (by omega))
    · calc (q - f.least).toNat * 2 ^ (f.precision - 1) + m
          < ((q - f.least).toNat + 2) * 2 ^ (f.precision - 1) := by
            rw [Nat.add_mul]
            omega
        _ ≤ 2 ^ (f.width - f.precision) * 2 ^ (f.precision - 1) :=
            Nat.mul_le_mul_right _ (by omega)
  have sign : negative.toNat * 2 ^ (f.width - 1) ≤ 2 ^ (f.width - 1) := by
    cases negative <;> simp
  rw [whole, two_mul]
  exact Nat.add_lt_add_of_le_of_lt sign magnitude

end Binary.Format
end TensorBundle

namespace TensorBundle.Binary

theorem roundQuotient_le (num den : Nat) : roundQuotient num den ≤ num / den + 1 := by
  unfold roundQuotient
  dsimp only
  split
  · omega
  · split
    · omega
    · split <;> omega

theorem roundQuotient_eq_iff {num den top : Nat} (positive : 0 < den) (even : top % 2 = 0)
    (below : num < top * den) :
    roundQuotient num den = top ↔ (2 * top - 1) * den ≤ 2 * num := by
  have parts : den * (num / den) + num % den = num := Nat.div_add_mod num den
  have rest : num % den < den := Nat.mod_lt num positive
  have small : num / den < top := Nat.div_lt_of_lt_mul (by rwa [Nat.mul_comm] at below)
  unfold roundQuotient
  generalize num / den = quotient, num % den = remainder at *
  by_cases last : quotient + 1 = top
  · -- The quotient is odd, so that the tie goes up.
    subst last
    have tie : (2 * (quotient + 1) - 1) * den = 2 * (den * quotient) + den := by
      rw [show 2 * (quotient + 1) - 1 = 2 * quotient + 1 by omega]
      ring
    rw [tie]
    simp only
    split
    · omega
    · split
      · omega
      · split <;> omega
  · obtain ⟨gap, rfl⟩ : ∃ gap, top = quotient + 2 + gap := ⟨top - (quotient + 2), by omega⟩
    have far : 2 * num < (2 * (quotient + 2 + gap) - 1) * den := by
      calc 2 * num < 2 * (den * quotient) + 2 * den := by omega
        _ = (2 * quotient + 2) * den := by ring
        _ ≤ (2 * (quotient + 2 + gap) - 1) * den := Nat.mul_le_mul_right _ (by omega)
    refine ⟨fun same => ?_, fun reached => absurd reached (not_le.mpr far)⟩
    simp only at same
    split at same
    · omega
    · split at same
      · omega
      · split at same <;> omega

namespace Format
variable {f : Format}

def limit (f : Format) : Nat := (2 * 2 ^ f.precision - 1) * 2 ^ (f.greatest.toNat - 1)

/-- What rounding makes of a significand, in units of the step. -/
def significandOf (f : Format) (m : Nat) (q : Int) : Nat :=
  if f.stepOf m q ≤ q then m * 2 ^ (q - f.stepOf m q).toNat
  else roundQuotient m (2 ^ (f.stepOf m q - q).toNat)

/-- Rounding up may reach one bit more than the format keeps; the step is then twice as large. -/
theorem roundFinite_eq (negative : Bool) {m : Nat} (q : Int) (positive : m ≠ 0) :
    f.roundFinite negative m q =
      if f.significandOf m q = 2 ^ f.precision then
        if f.greatest < f.stepOf m q + 1 then .infinite negative
        else .finite negative (2 ^ (f.precision - 1)) (f.stepOf m q + 1)
      else if f.greatest < f.stepOf m q then .infinite negative
      else .finite negative (f.significandOf m q) (f.stepOf m q) := by
  by_cases carried : f.significandOf m q = 2 ^ f.precision
  · rw [if_pos carried]
    unfold significandOf at carried
    simp only [roundFinite, positive, if_false, Nat.pow_eq, carried, if_true]
  · rw [if_neg carried]
    unfold significandOf at carried ⊢
    simp only [roundFinite, positive, if_false, Nat.pow_eq, carried]

theorem roundFinite_infinite_iff (negative : Bool) {m : Nat} (q : Int) (positive : m ≠ 0) :
    (∃ sign, f.roundFinite negative m q = .infinite sign) ↔
      f.greatest < f.stepOf m q ∨
        (f.greatest = f.stepOf m q ∧ f.significandOf m q = 2 ^ f.precision) := by
  rw [roundFinite_eq negative q positive]
  by_cases carried : f.significandOf m q = 2 ^ f.precision
  · by_cases beyond : f.greatest < f.stepOf m q + 1
    · simp [carried, beyond]
      omega
    · simp [carried, beyond]
      omega
  · by_cases beyond : f.greatest < f.stepOf m q <;> simp [carried, beyond]

theorem roundFinite_ne_nan (f : Format) (negative : Bool) (m : Nat) (q : Int) :
    f.roundFinite negative m q ≠ .nan := by
  by_cases zero : m = 0
  · simp [roundFinite, zero]
  · rw [roundFinite_eq negative q zero]
    split <;> split <;> simp

theorem pow_le_limit (f : Format) : 2 ^ (f.precision + (f.greatest.toNat - 1)) ≤ f.limit := by
  have one : 1 ≤ 2 ^ f.precision := Nat.one_le_two_pow
  rw [pow_add, limit]
  exact Nat.mul_le_mul_right _ (by omega)

theorem limit_le_pow (coarse : 1 ≤ f.greatest) :
    f.limit ≤ 2 ^ (f.precision + f.greatest.toNat) := by
  have parts : 2 ^ (f.precision + f.greatest.toNat) =
      2 * 2 ^ f.precision * 2 ^ (f.greatest.toNat - 1) := by
    rw [← pow_succ', ← pow_add]
    congr 1
    omega
  rw [parts, limit]
  exact Nat.mul_le_mul_right _ (by omega)

theorem roundFinite_infinite_iff_limit (regular : f.IsRegular) (coarse : 1 ≤ f.greatest)
    (negative : Bool) (m k : Nat) :
    (∃ sign, f.roundFinite negative m (-(k : Int)) = .infinite sign) ↔ f.limit * 2 ^ k ≤ m := by
  have low := Nat.mul_le_mul_right (2 ^ k) (pow_le_limit f)
  have high := Nat.mul_le_mul_right (2 ^ k) (limit_le_pow coarse)
  rw [← pow_add] at low high
  by_cases zero : m = 0
  · have some : 0 < f.limit * 2 ^ k := lt_of_lt_of_le (Nat.two_pow_pos _) low
    subst zero
    simp only [roundFinite, if_true]
    constructor
    · rintro ⟨_, impossible⟩
      cases impossible
    · intro reached
      omega
  rw [roundFinite_infinite_iff negative _ zero]
  have upper : m < 2 ^ (m.log2 + 1) := Nat.lt_log2_self
  have lower : 2 ^ m.log2 ≤ m := Nat.log2_self_le zero
  have reach : -(k : Int) + (m.log2 + 1 : Nat) - f.precision ≤ f.stepOf m (-(k : Int)) :=
    le_max_left _ _
  have either : f.stepOf m (-(k : Int)) = -(k : Int) + (m.log2 + 1 : Nat) - f.precision ∨
      f.stepOf m (-(k : Int)) = f.least := max_choice _ _
  have fine := regular.fine
  have precise := regular.precise
  unfold significandOf
  generalize f.stepOf m (-(k : Int)) = step at *
  rcases lt_trichotomy f.greatest step with beyond | same | within
  · -- The step is larger than any that the format has, and so is the number.
    have reached : f.limit * 2 ^ k ≤ m := by
      calc f.limit * 2 ^ k ≤ 2 ^ (f.precision + f.greatest.toNat + k) := high
        _ ≤ 2 ^ m.log2 := Nat.pow_le_pow_right two_pos (by omega)
        _ ≤ m := lower
    exact ⟨fun _ => reached, fun _ => Or.inl beyond⟩
  · -- The step is the greatest one: whether rounding up leaves it decides.
    subst same
    have outside : ¬ f.greatest ≤ -(k : Int) := by omega
    have short : m < 2 ^ f.precision * 2 ^ (f.greatest - -(k : Int)).toNat := by
      calc m < 2 ^ (m.log2 + 1) := upper
        _ ≤ 2 ^ (f.precision + (f.greatest - -(k : Int)).toNat) :=
            Nat.pow_le_pow_right two_pos (by omega)
        _ = _ := pow_add 2 _ _
    have even : 2 ^ f.precision % 2 = 0 :=
      Nat.mod_eq_zero_of_dvd (dvd_pow_self 2 (by omega))
    have units : 2 ^ (f.greatest - -(k : Int)).toNat =
        2 * (2 ^ (f.greatest.toNat - 1) * 2 ^ k) := by
      rw [← pow_add, ← pow_succ']
      congr 1
      omega
    rw [if_neg outside, roundQuotient_eq_iff (Nat.two_pow_pos _) even short, units, limit]
    simp only [lt_irrefl, false_or, true_and]
    rw [Nat.mul_left_comm, ← Nat.mul_assoc _ (2 ^ (f.greatest.toNat - 1))]
    omega
  · -- The number has too few bits to be out of range.
    have few : m < f.limit * 2 ^ k := by
      calc m < 2 ^ (m.log2 + 1) := upper
        _ ≤ 2 ^ (f.precision + (f.greatest.toNat - 1) + k) :=
            Nat.pow_le_pow_right two_pos (by omega)
        _ ≤ f.limit * 2 ^ k := low
    constructor
    · rintro (beyond | ⟨same, _⟩)
      · omega
      · omega
    · intro reached
      exact absurd reached (not_le.mpr few)

/-- A quotient is too large for a format exactly from its limit on. -/
theorem ofRatio_infinite_iff (regular : f.IsRegular) (coarse : 1 ≤ f.greatest) (negative : Bool)
    (num : Nat) {den : Nat} (positive : 0 < den) :
    (∃ sign, f.ofRatio negative num den = .infinite sign) ↔ f.limit * den ≤ num := by
  unfold ofRatio
  simp only [Nat.pow_eq]
  generalize f.precision + 2 + den.log2 - num.log2 = shift
  have exponent : -(shift : Int) - 1 = -((shift + 1 : Nat) : Int) := by omega
  rw [exponent, roundFinite_infinite_iff_limit regular coarse]
  have whole : f.limit * 2 ^ shift ≤ num * 2 ^ shift / den ↔ f.limit * den ≤ num := by
    rw [Nat.le_div_iff_mul_le positive, Nat.mul_right_comm]
    exact Nat.mul_le_mul_right_iff (Nat.two_pow_pos shift)
  rw [← whole, pow_succ, ← Nat.mul_assoc]
  -- What was left over is less than a unit.
  split <;> omega

end Format

/-- The integer part of a number, if there is one, is at most a power of two. -/
def IsWithin (x : Binary) (exponent : Nat) : Prop :=
  ∀ n, x.truncate? = some n → n.natAbs ≤ 2 ^ exponent

theorem isWithin_nan (exponent : Nat) : IsWithin .nan exponent := nofun

theorem isWithin_infinite (negative : Bool) (exponent : Nat) :
    IsWithin (.infinite negative) exponent := nofun

theorem isWithin_finite {m precision : Nat} {q greatest : Int} (negative : Bool)
    (short : m ≤ 2 ^ precision) (below : q ≤ greatest) :
    IsWithin (.finite negative m q) (precision + greatest.toNat) := by
  intro n known
  cases known
  have magnitude : (if 0 ≤ q then m * 2 ^ q.toNat else m / 2 ^ (-q).toNat) ≤
      2 ^ (precision + greatest.toNat) := by
    split
    · calc m * 2 ^ q.toNat ≤ 2 ^ precision * 2 ^ greatest.toNat :=
            Nat.mul_le_mul short (Nat.pow_le_pow_right two_pos (Int.toNat_le_toNat below))
        _ = 2 ^ (precision + greatest.toNat) := (pow_add 2 _ _).symm
    · calc m / 2 ^ (-q).toNat ≤ m := Nat.div_le_self _ _
        _ ≤ 2 ^ precision := short
        _ ≤ 2 ^ (precision + greatest.toNat) :=
            Nat.pow_le_pow_right two_pos (Nat.le_add_right _ _)
  simp only [Nat.pow_eq]
  cases negative
  · simpa only [Bool.false_eq_true, if_false, Int.natAbs_natCast] using magnitude
  · simpa only [if_true, Int.natAbs_neg, Int.natAbs_natCast] using magnitude

namespace Format
variable {f : Format}

theorem significandOf_le {m : Nat} (q : Int) (positive : m ≠ 0) :
    f.significandOf m q ≤ 2 ^ f.precision := by
  have upper : m < 2 ^ (m.log2 + 1) := Nat.lt_log2_self
  have reach : q + (m.log2 + 1 : Nat) - f.precision ≤ f.stepOf m q := le_max_left _ _
  unfold significandOf
  generalize f.stepOf m q = step at *
  by_cases inside : step ≤ q
  · rw [if_pos inside]
    exact (lengthened positive inside reach).2.1.le
  · have short : m < 2 ^ (step - q).toNat * 2 ^ f.precision := by
      calc m < 2 ^ (m.log2 + 1) := upper
        _ ≤ 2 ^ ((step - q).toNat + f.precision) := Nat.pow_le_pow_right two_pos (by omega)
        _ = 2 ^ (step - q).toNat * 2 ^ f.precision := pow_add 2 _ _
    rw [if_neg inside]
    exact (roundQuotient_le _ _).trans (Nat.div_lt_of_lt_mul short)

/-- The exponent of a power of two that no number of the format exceeds. -/
def reach (f : Format) : Nat := f.precision + f.greatest.toNat

theorem isWithin_roundFinite (regular : f.IsRegular) (negative : Bool) (m : Nat) (q : Int) :
    (f.roundFinite negative m q).IsWithin f.reach := by
  by_cases zero : m = 0
  · rw [roundFinite, if_pos zero]
    exact isWithin_finite negative (Nat.zero_le _) (regular.fine.trans regular.coarse)
  · rw [roundFinite_eq negative q zero]
    split
    · split
      · exact isWithin_infinite negative _
      · exact isWithin_finite negative (Nat.pow_le_pow_right two_pos (Nat.sub_le _ _))
          (not_lt.mp ‹_›)
    · split
      · exact isWithin_infinite negative _
      · exact isWithin_finite negative (significandOf_le q zero) (not_lt.mp ‹_›)

end Format
end TensorBundle.Binary

namespace TensorBundle.Decimal

theorem isWithin_toBinary {f : Binary.Format} (regular : f.IsRegular) (negative : Bool)
    (digits count : Nat) (exponent : Int) :
    (toBinary f negative digits count exponent).IsWithin f.reach := by
  have zero : (Binary.finite negative 0 f.least).IsWithin f.reach :=
    Binary.isWithin_finite negative (Nat.zero_le _) (regular.fine.trans regular.coarse)
  unfold toBinary
  split
  · exact zero
  split
  · exact Binary.isWithin_infinite negative _
  split
  · exact zero
  split
  · exact Binary.Format.isWithin_roundFinite regular negative _ 0
  · exact Binary.Format.isWithin_roundFinite regular negative _ _

end TensorBundle.Decimal
