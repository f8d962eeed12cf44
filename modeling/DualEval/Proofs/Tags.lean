import DualEval.Kernel.Basic
import DualEval.Proofs.IntegralRounding

/-!
# Decoding tags

The host takes a tag apart by its fraction and its integer part; the kernel rounds it and compares.
Both accept exactly the data that denote one of the four tags, whatever the sign of a zero, and
both refuse all others: fractions, integers out of range, infinities and NaNs.
-/

namespace DualEval

namespace Datum

variable {F : Format} {x y : Datum F}

theorem signedUnits_congr (sign : x.negative = y.negative) (magnitude : x.units = y.units) :
    x.signedUnits = y.signedUnits := by
  rw [signedUnits, signedUnits, sign, magnitude]

theorem signedUnits_neg : x.neg.signedUnits = -x.signedUnits := by
  have magnitude : x.neg.units = x.units := rfl
  unfold signedUnits
  rw [magnitude, neg]
  cases x.negative <;> simp

/-- A small natural number is denoted exactly. -/
theorem ofInt_natCast (wide : F.HoldsIntegers) {n : Nat} (small : n ≤ F.fractionCount) :
    (ofInt F n).isFinite = true ∧ (ofInt F n).signedUnits = n * F.one := by
  obtain ⟨finite, exact⟩ := F.nearest_integer wide small
  refine ⟨isFinite_iff.mpr finite, ?_⟩
  have positive : (ofInt F n).negative = false := by simp [ofInt, ofUnits]
  have magnitude : (ofInt F n).units = n * F.one := exact
  rw [signedUnits, positive, magnitude]
  simp

theorem equals_zero_iff : x.equals (zero F false) = true ↔ x.code = 0 := by
  refine ⟨code_eq_of_equals, fun none => ?_⟩
  have finite : x.isFinite = true := isFinite_iff.mpr (none ▸ F.infinityCode_pos)
  rw [equals_iff finite (isFinite_iff.mpr F.infinityCode_pos)]
  simp [signedUnits, units, none, zero]

/-- The rounded sum of finite data is a zero exactly when their values cancel. -/
theorem add_equals_zero_iff (left : x.isFinite = true) (right : y.isFinite = true) :
    (x.add y).equals (zero F false) = true ↔ x.signedUnits + y.signedUnits = 0 := by
  rw [equals_zero_iff, add_of_isFinite left right]
  by_cases cancels : x.signedUnits + y.signedUnits = 0
  · simp only [cancels, if_pos, zero]
  · have positive := F.nearest_pos Nat.one_pos (Int.natAbs_pos.mpr cancels)
    simp only [cancels, if_false, ofUnits, iff_false]
    omega

/-- Exactly the integral data have no fraction. -/
theorem fraction_equals_zero_iff (wide : F.HoldsIntegers) :
    x.fraction.equals (zero F false) = true ↔ x.isFinite = true ∧ F.one ∣ x.units := by
  by_cases finite : x.isFinite = true
  · obtain ⟨bounded, sign, magnitude⟩ := truncate_spec wide finite
    have opposite : x.truncate.neg.isFinite = true := bounded
    rw [fraction, sub, add_equals_zero_iff finite opposite, signedUnits_neg]
    have whole : x.units / F.one * F.one = x.units ↔ F.one ∣ x.units :=
      ⟨fun same => ⟨x.units / F.one, by rw [Nat.mul_comm, same]⟩, Nat.div_mul_cancel⟩
    rw [← whole, ← magnitude]
    simp only [signedUnits, sign, finite, true_and]
    split <;> omega
  · have invalid : x.fraction = quietNaN F := by
      rcases x.classes with ⟨nan, _, _⟩ | ⟨number, unbounded, _⟩ | ⟨_, _, bounded⟩
      · simp [fraction, sub, add, nan]
      · have same : x.neg.isInfinite = true := unbounded
        have known : x.neg.isNaN = false := number
        have kept : x.truncate = x := if_neg finite
        have differing : (x.negative != x.neg.negative) = true := by simp [neg]
        rw [fraction, kept, sub, add]
        simp [number, known, unbounded, same, differing]
      · exact absurd bounded finite
    have above : (quietNaN F).code ≠ 0 := by
      have := F.infinityCode_lt_quietNaNCode
      simp only [quietNaN]
      omega
    rw [equals_zero_iff, invalid]
    simp [above, finite]

/-- A finite datum with a whole magnitude denotes an integer, which is the datum as an integer unless
it is out of range. -/
theorem integer_spec (finite : x.isFinite = true) (whole : F.one ∣ x.units) :
    ∃ n : Int, x.signedUnits = n * F.one ∧ x.toInt? = some n ∧
      x.toInt64 = Max.max Int64.minValue.toInt (Min.min Int64.maxValue.toInt n) := by
  obtain ⟨q, magnitude⟩ := whole
  have divided : x.units / 2 ^ F.unitPlaces = q := by
    rw [magnitude]
    exact Nat.mul_div_cancel_left q F.one_pos
  have value : x.signedUnits = (if x.negative then -(q : Int) else q) * F.one := by
    rw [signedUnits, magnitude]
    split <;> push_cast <;> ring
  refine ⟨if x.negative then -q else q, value, ?_, ?_⟩
  · have exact : x.units % 2 ^ F.unitPlaces = 0 := magnitude ▸ Nat.mul_mod_right F.one q
    have positive : (F.one : Int) ≠ 0 := by exact_mod_cast F.one_pos.ne'
    rw [toInt?, finite, exact, value]
    simp only [beq_self_eq_true, Bool.and_self, if_true]
    exact congrArg some (Int.mul_ediv_cancel _ positive)
  · rw [toInt64, isNaN_of_isFinite finite, isInfinite_of_isFinite finite, divided]
    rfl

theorem one_dvd_units_of_signedUnits {n : Int} (value : x.signedUnits = n * F.one) :
    F.one ∣ x.units := by
  have magnitude : x.units = x.signedUnits.natAbs := by
    unfold signedUnits
    split <;> simp
  rw [magnitude, value, Int.natAbs_mul, Int.natAbs_natCast]
  exact Nat.dvd_mul_left ..

end Datum

theorem binary32_holdsIntegers : binary32.HoldsIntegers := by
  unfold Format.HoldsIntegers
  decide

namespace Operator

variable {tag : Binary32} {operator : Operator}

theorem tag_le (operator : Operator) : operator.tag ≤ 3 := by
  cases operator <;> decide

theorem ofNumber?_eq_some_iff {n : Int} :
    ofNumber? n = some operator ↔ (operator.tag : Int) = n := by
  constructor
  · intro named
    unfold ofNumber? at named
    split at named <;> cases named <;> rfl
  · rintro rfl
    cases operator <;> rfl

theorem exists_tag_eq {n : Int} (low : 0 ≤ n) (high : n ≤ 3) :
    ∃ operator : Operator, (operator.tag : Int) = n := by
  rcases (by omega : n = 0 ∨ n = 1 ∨ n = 2 ∨ n = 3) with rfl | rfl | rfl | rfl
  · exact ⟨add, rfl⟩
  · exact ⟨subtract, rfl⟩
  · exact ⟨multiply, rfl⟩
  · exact ⟨divide, rfl⟩

/-- A tag denotes an operator's number, whatever the sign of a zero. -/
def Denotes (tag : Binary32) (operator : Operator) : Prop :=
  tag.isFinite = true ∧ tag.signedUnits = operator.tag * binary32.one

/-- The host accepts exactly the data that denote a tag. -/
theorem ofTag?_eq_some_iff : ofTag? tag = some operator ↔ Denotes tag operator := by
  have positive : (binary32.one : Int) ≠ 0 := by exact_mod_cast binary32.one_pos.ne'
  have small := operator.tag_le
  have accepted : tag.fraction.equals Binary32.zero = true ↔
      tag.isFinite = true ∧ binary32.one ∣ tag.units :=
    Datum.fraction_equals_zero_iff binary32_holdsIntegers
  rw [ofTag?, Denotes]
  constructor
  · intro decoded
    split at decoded
    case isFalse => contradiction
    case isTrue whole =>
      obtain ⟨finite, divides⟩ := accepted.mp whole
      obtain ⟨n, value, _, clamped⟩ := Datum.integer_spec finite divides
      rw [ofNumber?_eq_some_iff, clamped, Int64.toInt_minValue, Int64.toInt_maxValue] at decoded
      have exact : n = operator.tag := by omega
      exact ⟨finite, exact ▸ value⟩
  · rintro ⟨finite, value⟩
    have divides := Datum.one_dvd_units_of_signedUnits value
    obtain ⟨n, again, _, clamped⟩ := Datum.integer_spec finite divides
    have exact : n = operator.tag := Int.eq_of_mul_eq_mul_right positive (again ▸ value)
    rw [if_pos (accepted.mpr ⟨finite, divides⟩), ofNumber?_eq_some_iff, clamped, Int64.toInt_minValue,
      Int64.toInt_maxValue]
    omega

end Operator

namespace Kernel

variable {tag : Binary32} {operator : Operator}

theorem ofInt_three : (Datum.ofInt binary32 3).isFinite = true ∧
    (Datum.ofInt binary32 3).signedUnits = 3 * binary32.one :=
  Datum.ofInt_natCast binary32_holdsIntegers (n := 3) (by decide)

theorem ofInt_zero : (Datum.ofInt binary32 0).isFinite = true ∧
    (Datum.ofInt binary32 0).signedUnits = 0 := by
  obtain ⟨finite, value⟩ := Datum.ofInt_natCast binary32_holdsIntegers (n := 0) (by decide)
  exact ⟨finite, value.trans (by simp)⟩

theorem decodeTag_of_denotes (denotes : Operator.Denotes tag operator) :
    decodeTag tag = operator.tag := by
  obtain ⟨finite, value⟩ := denotes
  have small := operator.tag_le
  have whole := Datum.one_dvd_units_of_signedUnits value
  obtain ⟨bounded, sign, magnitude⟩ := Datum.roundIntegral_spec binary32_holdsIntegers finite
  have kept : tag.roundIntegral.signedUnits = tag.signedUnits := by
    obtain ⟨q, exact⟩ := whole
    refine Datum.signedUnits_congr sign (magnitude.trans ?_)
    rw [exact, Nat.mul_comm binary32.one, roundQuotient_mul_self q binary32.one_pos]
  obtain ⟨n, again, decoded, _⟩ := Datum.integer_spec bounded
    (Datum.one_dvd_units_of_signedUnits (kept.trans value))
  have positive : (0 : Int) < binary32.one := by exact_mod_cast binary32.one_pos
  have exact : n = operator.tag :=
    Int.eq_of_mul_eq_mul_right positive.ne' (again.symm.trans (kept.trans value))
  have same : tag.roundIntegral.equals tag = true := (Datum.equals_iff bounded finite).mpr kept
  have least : tag.roundIntegral.below (Datum.ofInt binary32 0) = false := by
    rw [← Bool.not_eq_true, Datum.below_iff bounded ofInt_zero.1, ofInt_zero.2, kept, value]
    exact not_lt.mpr (Int.mul_nonneg (Int.natCast_nonneg _) positive.le)
  have greatest : Datum.below (Datum.ofInt binary32 3) tag.roundIntegral = false := by
    rw [← Bool.not_eq_true, Datum.below_iff ofInt_three.1 bounded, ofInt_three.2, kept, value]
    exact not_lt.mpr (Int.mul_le_mul_of_nonneg_right (by exact_mod_cast small) positive.le)
  simp only [decodeTag, same, least, greatest, decoded, exact]
  rfl

/-- A tag that survives the comparisons with its rounded self and with the bounds is finite. -/
theorem isFinite_of_within (same : tag.roundIntegral.equals tag = true)
    (least : tag.roundIntegral.below (Datum.ofInt binary32 0) = false)
    (greatest : Datum.below (Datum.ofInt binary32 3) tag.roundIntegral = false) :
    tag.isFinite = true := by
  by_contra unbounded
  have kept : tag.roundIntegral = tag := if_neg unbounded
  rw [kept] at same least greatest
  rcases tag.classes with ⟨nan, _, _⟩ | ⟨_, infinite, _⟩ | ⟨_, _, finite⟩
  · simp [Datum.equals, nan] at same
  · cases sign : tag.negative with
    | false =>
      rw [(Datum.below_infinite ofInt_three.1 infinite).1 sign] at greatest
      contradiction
    | true =>
      rw [(Datum.below_infinite ofInt_zero.1 infinite).2 sign] at least
      contradiction
  · exact unbounded finite

theorem denotes_of_decodeTag (accepted : decodeTag tag ≠ -1) :
    ∃ operator, Operator.Denotes tag operator := by
  simp only [decodeTag] at accepted
  split at accepted
  case isTrue => contradiction
  case isFalse within =>
    simp only [Bool.or_eq_true, Bool.not_eq_true', not_or, Bool.not_eq_true,
      Bool.not_eq_false] at within
    obtain ⟨⟨same, least⟩, greatest⟩ := within
    have finite := isFinite_of_within same least greatest
    obtain ⟨bounded, _, magnitude⟩ := Datum.roundIntegral_spec binary32_holdsIntegers finite
    obtain ⟨n, value, _, _⟩ := Datum.integer_spec bounded ⟨_, magnitude.trans (Nat.mul_comm ..)⟩
    have positive : (0 : Int) < binary32.one := by exact_mod_cast binary32.one_pos
    rw [Datum.equals_iff bounded finite, value] at same
    rw [← Bool.not_eq_true, Datum.below_iff bounded ofInt_zero.1, ofInt_zero.2, value,
      not_lt] at least
    rw [← Bool.not_eq_true, Datum.below_iff ofInt_three.1 bounded, ofInt_three.2, value,
      not_lt] at greatest
    obtain ⟨operator, number⟩ := Operator.exists_tag_eq
      (Int.nonneg_of_mul_nonneg_left least positive) (Int.le_of_mul_le_mul_right greatest positive)
    exact ⟨operator, finite, number ▸ same.symm⟩

/-- The kernel decodes every tag as the host does. -/
theorem decodeTag_eq (tag : Binary32) :
    decodeTag tag = match Operator.ofTag? tag with
      | some operator => (operator.tag : Int)
      | none => -1 := by
  cases host : Operator.ofTag? tag with
  | some operator => exact decodeTag_of_denotes (Operator.ofTag?_eq_some_iff.mp host)
  | none =>
    by_contra accepted
    obtain ⟨operator, denotes⟩ := denotes_of_decodeTag accepted
    rw [Operator.ofTag?_eq_some_iff.mpr denotes] at host
    contradiction

end Kernel

end DualEval
