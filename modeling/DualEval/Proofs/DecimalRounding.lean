import DualEval.Decimal.Basic
import DualEval.Proofs.Rounding
import Mathlib.Algebra.Order.Field.Rat
import Mathlib.Tactic.FieldSimp

/-!
# Rounding decimals

The shortcuts for exponents far out of range agree with the exact quotient, so a decimal is rounded
once and by its value alone: two decimals that denote the same number are rounded to the same code.
-/

namespace DualEval

namespace Format

variable (F : Format)

/-- Rounding depends on the quotient alone. -/
theorem nearest_congr {num den num' den' : Nat} (positive : 0 < den) (positive' : 0 < den')
    (same : num * den' = num' * den) : F.nearest num den = F.nearest num' den' := by
  rw [← F.nearest_mul_left positive' num den, ← F.nearest_mul_left positive num' den',
    Nat.mul_comm den' num, same, Nat.mul_comm num' den, Nat.mul_comm den' den]

theorem nearest_eq_infinityCode {num den : Nat} (large : F.exponentLimit ≤ F.scale num den) :
    F.nearest num den = F.infinityCode := by
  have beyond : F.infinityCode ≤ F.scale num den * F.fractionCount :=
    Nat.mul_le_mul_right F.fractionCount large
  rw [nearest_eq_min, Nat.min_eq_left (by omega)]

/-- The numerator of a decimal magnitude in units. -/
def decimalNum (coefficient : Nat) (exponent : Int) : Nat :=
  coefficient * 10 ^ exponent.toNat * 2 ^ F.unitPlaces

/-- A decimal whose exponent alone puts it above the finite magnitudes is rounded to infinity. -/
theorem nearest_of_farAbove {coefficient : Nat} {exponent : Int} (positive : 0 < coefficient)
    (far : F.farAbove exponent = true) :
    F.nearest (F.decimalNum coefficient exponent) (10 ^ (-exponent).toNat) = F.infinityCode := by
  rw [farAbove, decide_eq_true_eq] at far
  obtain ⟨n, rfl⟩ := Int.eq_ofNat_of_zero_le (le_trans (Int.natCast_nonneg _) far)
  have bound : 2 ^ (F.exponentBits - 1) ≤ n := by exact_mod_cast far
  have whole : (-(n : Int)).toNat = 0 := by omega
  have lower : 2 ^ (3 * n + F.unitPlaces) ≤ F.decimalNum coefficient n := by
    have eight : (2 : Nat) ^ (3 * n) ≤ 10 ^ n := by
      rw [Nat.pow_mul]
      exact Nat.pow_le_pow_left (by decide) n
    rw [Nat.pow_add, decimalNum, Int.toNat_natCast]
    refine Nat.mul_le_mul_right _ (eight.trans ?_)
    exact Nat.le_mul_of_pos_left _ positive
  have power : (F.decimalNum coefficient n / 1).log2 ≥ 3 * n + F.unitPlaces := by
    rw [Nat.div_one]
    refine (Nat.le_log2 ?_).mpr lower
    have := Nat.two_pow_pos (3 * n + F.unitPlaces)
    omega
  have limit : F.exponentLimit + 1 = 2 * 2 ^ (F.exponentBits - 1) := by
    have two := F.two_le_exponentBits
    have one : 1 ≤ 2 ^ F.exponentBits := Nat.one_le_two_pow
    rw [exponentLimit, Nat.sub_add_cancel one, ← Nat.pow_succ']
    congr 1
    omega
  have leading : 2 ≤ 2 ^ (F.exponentBits - 1) :=
    Nat.pow_le_pow_right (n := 2) (by decide) (show 1 ≤ F.exponentBits - 1 by
      have := F.two_le_exponentBits
      omega)
  rw [whole, Nat.pow_zero]
  apply F.nearest_eq_infinityCode
  rw [scale]
  rw [unitPlaces] at power
  omega

/-- A decimal whose length and exponent put it below half a unit is rounded to zero. -/
theorem nearest_of_farBelow {coefficient : Nat} {exponent : Int} (positive : 0 < coefficient)
    (far : F.farBelow coefficient exponent = true) :
    F.nearest (F.decimalNum coefficient exponent) (10 ^ (-exponent).toNat) = 0 := by
  rw [farBelow, decide_eq_true_eq] at far
  obtain ⟨n, rfl⟩ : ∃ n : Nat, exponent = -n := ⟨(-exponent).toNat, by omega⟩
  rw [neg_neg] at far ⊢
  have bound : coefficient.log2 + F.unitPlaces + 2 ≤ 3 * n := by exact_mod_cast far
  have whole : (-(n : Int)).toNat = 0 := by omega
  apply F.nearest_eq_zero
  rw [decimalNum, whole, Int.toNat_natCast, Nat.pow_zero, Nat.mul_one]
  have above : coefficient < 2 ^ (coefficient.log2 + 1) :=
    (Nat.log2_lt positive.ne').mp (Nat.lt_succ_self _)
  calc 2 * (coefficient * 2 ^ F.unitPlaces)
      < 2 * (2 ^ (coefficient.log2 + 1) * 2 ^ F.unitPlaces) := by
        have := Nat.mul_lt_mul_of_pos_right above (Nat.two_pow_pos F.unitPlaces)
        omega
    _ = 2 ^ (coefficient.log2 + F.unitPlaces + 2) := by ring
    _ ≤ 2 ^ (3 * n) := Nat.pow_le_pow_right (by decide) bound
    _ = 8 ^ n := by rw [Nat.pow_mul]
    _ ≤ 10 ^ n := Nat.pow_le_pow_left (by decide) n

/-- A decimal is rounded once, from its exact value. -/
theorem nearestDecimal_eq_nearest (coefficient : Nat) (exponent : Int) :
    F.nearestDecimal coefficient exponent =
      F.nearest (F.decimalNum coefficient exponent) (10 ^ (-exponent).toNat) := by
  have positive : 0 < 10 ^ (-exponent).toNat := Nat.pow_pos (by decide)
  rw [nearestDecimal]
  split
  case isTrue none =>
    rw [F.nearest_eq_zero]
    rw [decimalNum, none, Nat.zero_mul, Nat.zero_mul]
    exact positive
  case isFalse some =>
    have some := Nat.pos_of_ne_zero some
    split
    case isTrue far => exact (F.nearest_of_farAbove some far).symm
    case isFalse =>
      split
      case isTrue far => exact (F.nearest_of_farBelow some far).symm
      case isFalse =>
        split
        case isTrue large => rw [decimalNum, show (-exponent).toNat = 0 by omega, Nat.pow_zero]
        case isFalse small =>
          rw [decimalNum, show exponent.toNat = 0 by omega, Nat.pow_zero, Nat.mul_one]

theorem ten_zpow (e : Int) : (10 : ℚ) ^ e = 10 ^ e.toNat / 10 ^ (-e).toNat := by
  rw [← zpow_natCast, ← zpow_natCast, ← zpow_sub₀ (by norm_num)]
  congr 1
  omega

/-- Decimals of the same value are rounded alike. -/
theorem nearestDecimal_congr {coefficient coefficient' : Nat} {exponent exponent' : Int}
    (same : (coefficient : ℚ) * 10 ^ exponent = coefficient' * 10 ^ exponent') :
    F.nearestDecimal coefficient exponent = F.nearestDecimal coefficient' exponent' := by
  rw [nearestDecimal_eq_nearest, nearestDecimal_eq_nearest]
  apply F.nearest_congr (Nat.pow_pos (by decide)) (Nat.pow_pos (by decide))
  rw [ten_zpow, ten_zpow] at same
  field_simp at same
  have crossed : coefficient * 10 ^ exponent.toNat * 10 ^ (-exponent').toNat =
      coefficient' * 10 ^ exponent'.toNat * 10 ^ (-exponent).toNat := by
    rw [Nat.mul_comm _ (10 ^ (-exponent).toNat), ← Nat.mul_assoc]
    exact_mod_cast same
  calc F.decimalNum coefficient exponent * 10 ^ (-exponent').toNat
      = coefficient * 10 ^ exponent.toNat * 10 ^ (-exponent').toNat * 2 ^ F.unitPlaces := by
        rw [decimalNum]; ring
    _ = coefficient' * 10 ^ exponent'.toNat * 10 ^ (-exponent).toNat * 2 ^ F.unitPlaces := by
        rw [crossed]
    _ = F.decimalNum coefficient' exponent' * 10 ^ (-exponent).toNat := by
        rw [decimalNum]; ring

end Format

namespace Decimal

/-- The magnitude that a decimal denotes. -/
def magnitude (d : Decimal) : ℚ := d.coefficient * 10 ^ d.exponent

theorem toDatum_congr (F : Format) {d d' : Decimal} (sign : d.negative = d'.negative)
    (same : d.magnitude = d'.magnitude) : d.toDatum F = d'.toDatum F :=
  Datum.eq_of_fields sign (F.nearestDecimal_congr same)

end Decimal

end DualEval
