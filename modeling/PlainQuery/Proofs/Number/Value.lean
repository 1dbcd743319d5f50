import Mathlib.Algebra.Order.Field.Basic
import Mathlib.Data.Rat.Cast.Order
import Mathlib.Tactic.FieldSimp
import Mathlib.Tactic.Linarith
import Mathlib.Tactic.Positivity
import Mathlib.Tactic.Ring
import PlainQuery.Number.Floating

/-!
# The value of a number

A finite number is a rational, `mantissa * 2 ^ exponent` with its sign (`Floating.toRat`).  Its
digits are computed from a quotient of whole numbers instead, which is the same value (`toRat_eq`).

The two are connected by two facts about quotients.  A quotient is whole exactly if nothing remains,
which is how the program recognizes whole numbers (`isIntegral_iff`).  And a quotient is rounded to
a whole number that is at most half a unit away (`abs_roundDiv_sub_le`), so that half a unit and
less become zero (`roundDiv_eq_zero_iff`); the tie goes to zero because zero is even.

Signs are kept apart from magnitudes by `signed`, so that everything else is about numbers that are
not negative.  A zero may have a sign, which its value does not show (`toRat_lt_zero_iff`).
-/

namespace PlainQuery.Number

variable {f : BinaryFormat} {x : Floating f} {negative : Bool} {num den : Nat} {magnitude : ℚ}

/-! ## Signs -/

/-- A magnitude with its sign. -/
def signed (negative : Bool) (magnitude : ℚ) : ℚ := if negative then -magnitude else magnitude

theorem signed_zero (negative : Bool) : signed negative 0 = 0 := by
  cases negative <;> simp [signed]

theorem signed_lt_neg_iff {bound : ℚ} (hbound : 0 ≤ bound) (hmagnitude : 0 ≤ magnitude) :
    signed negative magnitude < -bound ↔ negative = true ∧ bound < magnitude := by
  cases negative with
  | true => simp [signed]
  | false =>
      simp only [signed, Bool.false_eq_true, if_false, false_and, iff_false, not_lt]
      linarith

theorem signed_lt_zero_iff (hmagnitude : 0 ≤ magnitude) :
    signed negative magnitude < 0 ↔ negative = true ∧ 0 < magnitude := by
  rw [← signed_lt_neg_iff le_rfl hmagnitude, neg_zero]

theorem abs_signed_sub (negative : Bool) (first second : ℚ) :
    |signed negative first - signed negative second| = |first - second| := by
  cases negative with
  | true =>
      show |-first - -second| = _
      rw [neg_sub_neg, abs_sub_comm]
  | false => rfl

theorem exists_signed_eq_intCast_iff :
    (∃ n : ℤ, signed negative magnitude = n) ↔ ∃ n : ℤ, magnitude = n := by
  cases negative with
  | true =>
      constructor
      · rintro ⟨n, hn⟩
        exact ⟨-n, by rw [Int.cast_neg, ← hn]; exact (neg_neg _).symm⟩
      · rintro ⟨n, rfl⟩
        exact ⟨-n, (Int.cast_neg n).symm⟩
  | false => rfl

/-! ## Rounded quotients -/

theorem abs_roundDiv_sub_le (num : Nat) (hden : 0 < den) :
    |(roundDiv num den : ℚ) - num / den| ≤ 1 / 2 := by
  have hpos : (0 : ℚ) < den := by exact_mod_cast hden
  have habove : (2 * (roundDiv num den * den) : ℚ) ≤ 2 * num + den := by
    exact_mod_cast two_mul_roundDiv_mul_le num hden
  have hbelow : (2 * num : ℚ) ≤ 2 * (roundDiv num den * den) + den := by
    exact_mod_cast two_mul_le_roundDiv_mul num hden
  calc |(roundDiv num den : ℚ) - num / den|
      = |(roundDiv num den : ℚ) * den - num| / den := by
        rw [← abs_of_pos hpos, ← abs_div, abs_of_pos hpos, sub_div,
          mul_div_cancel_right₀ _ hpos.ne']
    _ ≤ den / 2 / den := by
        gcongr
        rw [abs_le]
        constructor <;> linarith
    _ = 1 / 2 := by field_simp

/-- Half a unit and less is rounded to zero. -/
theorem roundDiv_eq_zero_iff (hden : 0 < den) : roundDiv num den = 0 ↔ 2 * num ≤ den := by
  constructor
  · intro hzero
    have hbelow := two_mul_le_roundDiv_mul num hden
    rw [hzero] at hbelow
    omega
  · intro hle
    have hquotient : num / den = 0 := Nat.div_eq_of_lt (by omega)
    have hremainder : num % den = num := Nat.mod_eq_of_lt (by omega)
    rw [roundDiv, hquotient, hremainder]
    split
    · rfl
    · rw [if_neg (by omega)]

namespace Floating

/-- The exact value of a finite number. -/
def toRat (x : Floating f) : ℚ := signed x.negative (x.mantissa * 2 ^ x.exponent)

theorem toRat_eq (x : Floating f) : x.toRat = signed x.negative (x.numerator / x.denominator) := by
  have hpower : (2 : ℚ) ^ x.exponent = 2 ^ x.exponent.toNat / 2 ^ (-x.exponent).toNat := by
    rw [← zpow_natCast, ← zpow_natCast, ← zpow_sub₀ two_ne_zero]
    congr 1
    omega
  rw [toRat, numerator, denominator, hpower]
  simp only [Nat.pow_eq, Nat.cast_mul, Nat.cast_pow, Nat.cast_ofNat, mul_div_assoc]

theorem cast_denominator_pos (x : Floating f) : (0 : ℚ) < x.denominator := by
  exact_mod_cast x.denominator_pos

/-- A finite number without remainder is a whole number. -/
theorem isIntegral_iff (hx : x.isFinite = true) :
    x.isIntegral = true ↔ ∃ n : ℤ, x.toRat = n := by
  have hden := x.cast_denominator_pos.ne'
  rw [isIntegral, hx, Bool.true_and, beq_iff_eq, ← Nat.dvd_iff_mod_eq_zero, toRat_eq,
    exists_signed_eq_intCast_iff]
  constructor
  · rintro ⟨whole, hwhole⟩
    exact ⟨whole, by rw [hwhole, Nat.cast_mul, mul_div_cancel_left₀ _ hden]; rfl⟩
  · rintro ⟨n, hn⟩
    rw [div_eq_iff hden] at hn
    have hdvd : (x.denominator : ℤ) ∣ x.numerator := ⟨n, by rw [mul_comm]; exact_mod_cast hn⟩
    exact Int.natCast_dvd_natCast.mp hdvd

/-! ## Zeros -/

theorem mantissa_eq_zero_iff : x.mantissa = 0 ↔ x.isZero = true := by
  have hbinade : 0 < f.binade := Nat.two_pow_pos _
  rw [mantissa, isZero, beq_iff_eq]
  split
  · rfl
  · constructor <;> intro h <;> omega

theorem numerator_eq_zero_iff : x.numerator = 0 ↔ x.isZero = true := by
  have hpower : Nat.pow 2 x.exponent.toNat ≠ 0 := (Nat.two_pow_pos _).ne'
  rw [numerator, Nat.mul_eq_zero, or_iff_left hpower, mantissa_eq_zero_iff]

/-- A zero of either sign is a whole number. -/
theorem isIntegral_of_isZero (hx : x.isFinite = true) (hzero : x.isZero = true) :
    x.isIntegral = true := by
  rw [isIntegral, hx, numerator_eq_zero_iff.mpr hzero, Nat.zero_mod]
  rfl

theorem toRat_lt_zero_iff : x.toRat < 0 ↔ x.negative = true ∧ x.isZero = false := by
  have hmagnitude : (0 : ℚ) < x.numerator / x.denominator ↔ x.isZero = false := by
    rw [div_pos_iff_of_pos_right x.cast_denominator_pos, Nat.cast_pos, Nat.pos_iff_ne_zero, Ne,
      numerator_eq_zero_iff, Bool.not_eq_true]
  rw [toRat_eq, signed_lt_zero_iff (by positivity), hmagnitude]

end Floating

end PlainQuery.Number
