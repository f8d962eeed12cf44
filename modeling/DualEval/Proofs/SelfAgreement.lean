import DualEval.Parity
import DualEval.Proofs.NearestRounding
import DualEval.Proofs.Tags

/-!
# Data that agree with themselves

Agreement within a tolerance is rounded arithmetic, and not every datum agrees with itself under every
tolerance.  A NaN and an infinity do.  A finite datum is at distance zero from itself, and the
allowance at it lies on the same side of zero as the tolerance, since the tolerance is multiplied by
at least one and so does not vanish in rounding.  Hence a finite datum agrees with itself exactly
within the tolerances that are not below zero (`DualEval.Parity.agree_self_iff`).
-/

namespace DualEval

namespace Datum

variable {F : Format} {x y : Datum F}

theorem isNaN_ofUnits (negative : Bool) (num den : Nat) :
    (ofUnits F negative num den).isNaN = false :=
  decide_eq_false (Nat.not_lt.mpr (F.nearest_le_infinityCode num den))

theorem units_eq_zero_iff : x.units = 0 ↔ x.code = 0 := by
  rw [units, ← F.units_strictMono.injective.eq_iff (a := x.code) (b := 0), F.units_zero]

/-- Of two data both are finite, or one is a NaN, or none is and one is an infinity. -/
theorem classes_pair (x y : Datum F) :
    (x.isFinite = true ∧ y.isFinite = true) ∨ (x.isNaN = true ∨ y.isNaN = true) ∨
      (x.isNaN = false ∧ y.isNaN = false ∧ (x.isInfinite = true ∨ y.isInfinite = true)) := by
  rcases x.classes with ⟨nan, _, _⟩ | ⟨known, infinite, _⟩ | ⟨known, _, finite⟩
  · exact .inr (.inl (.inl nan))
  · rcases y.classes with ⟨nan, _, _⟩ | ⟨known', _, _⟩ | ⟨known', _, _⟩
    · exact .inr (.inl (.inr nan))
    · exact .inr (.inr ⟨known, known', .inl infinite⟩)
    · exact .inr (.inr ⟨known, known', .inl infinite⟩)
  · rcases y.classes with ⟨nan, _, _⟩ | ⟨known', infinite, _⟩ | ⟨_, _, finite'⟩
    · exact .inr (.inl (.inr nan))
    · exact .inr (.inr ⟨known, known', .inr infinite⟩)
    · exact .inl ⟨finite, finite'⟩

theorem atMost_iff : x.atMost y = true ↔
    x.isNaN = false ∧ y.isNaN = false ∧ x.orderKey ≤ y.orderKey := by
  simp only [atMost, Bool.and_eq_true, Bool.not_eq_true', decide_eq_true_eq, and_assoc]

theorem zero_atMost_iff :
    (zero F false).atMost x = true ↔ x.isNaN = false ∧ (x.negative = false ∨ x.code = 0) := by
  have number : (zero F false).isNaN = false :=
    isNaN_of_isFinite (isFinite_iff.mpr F.infinityCode_pos)
  have key : (zero F false).orderKey = 0 := rfl
  rw [atMost_iff, number, key, orderKey]
  cases x.negative <;> simp

theorem add_neg_self (finite : x.isFinite = true) : x.add x.neg = zero F false := by
  have cancels : x.signedUnits + x.neg.signedUnits = 0 := by
    rw [signedUnits_neg]
    omega
  rw [add_of_isFinite (y := x.neg) finite finite, if_pos cancels]
  simp [neg]

/-- The larger of a magnitude and one is a finite factor of at least one. -/
theorem max_one_spec (wide : F.HoldsIntegers) (finite : x.isFinite = true) :
    (x.abs.max (ofInt F 1)).isFinite = true ∧ (x.abs.max (ofInt F 1)).negative = false ∧
      (x.abs.max (ofInt F 1)).units = Max.max x.units F.one := by
  obtain ⟨bounded, value⟩ := ofInt_natCast wide (n := 1) F.fractionCount_pos
  rw [Nat.cast_one, one_mul] at value
  rw [Nat.cast_one] at bounded
  have positive : (ofInt F 1).negative = false := rfl
  have magnitude : x.abs.isFinite = true := finite
  have same : x.abs.signedUnits = x.units := rfl
  have whole : (ofInt F 1).units = F.one := by
    simp only [signedUnits, positive, Bool.false_eq_true, if_false] at value
    exact_mod_cast value
  simp only [max, isNaN_of_isFinite magnitude, isNaN_of_isFinite bounded, Bool.false_eq_true,
    if_false]
  split
  case isTrue above =>
    rw [below_iff magnitude bounded, value, same] at above
    have less : x.units ≤ F.one := by omega
    exact ⟨bounded, positive, by rw [whole, max_eq_right less]⟩
  case isFalse above =>
    rw [below_iff magnitude bounded, value, same, not_lt] at above
    have most : F.one ≤ x.units := by omega
    exact ⟨magnitude, rfl, (max_eq_left most).symm⟩

section Factor

variable (finite : y.isFinite = true) (positive : y.negative = false)
include finite positive

/-- A product of a finite datum and a positive factor is rounded under the sign of the datum. -/
theorem mul_of_factor (bounded : x.isFinite = true) :
    x.mul y = ofUnits F x.negative (x.units * y.units) F.one := by
  rw [mul_of_isFinite bounded finite, positive, Bool.bne_false]

/-- An infinity stays what it is under a positive factor. -/
theorem mul_factor_of_isInfinite (infinite : x.isInfinite = true) (nonzero : 0 < y.units) :
    x.mul y = infinity F x.negative := by
  have top : x.code = F.infinityCode := of_decide_eq_true infinite
  have known : x.isNaN = false := isNaN_eq_false_iff.mpr top.le
  have apart : x.isZero = false := by
    rw [isZero, top]
    exact decide_eq_false F.infinityCode_pos.ne'
  have proper : y.isZero = false := by
    rw [isZero, decide_eq_false_iff_not, ← units_eq_zero_iff]
    exact nonzero.ne'
  simp only [mul, known, isNaN_of_isFinite finite, infinite, apart, proper, positive,
    Bool.or_self, Bool.true_or, Bool.bne_false, Bool.false_eq_true, if_false, if_true]

theorem isNaN_mul_factor (nonzero : 0 < y.units) : (x.mul y).isNaN = x.isNaN := by
  rcases x.classes with ⟨nan, _, _⟩ | ⟨known, infinite, _⟩ | ⟨known, _, bounded⟩
  · rw [nan, mul, nan, Bool.true_or, if_pos rfl]
    exact decide_eq_true F.infinityCode_lt_quietNaNCode
  · rw [mul_factor_of_isInfinite finite positive infinite nonzero, known]
    exact isNaN_eq_false_iff.mpr le_rfl
  · rw [mul_of_factor finite positive bounded, isNaN_ofUnits, known]

theorem negative_mul_factor (known : x.isNaN = false) (nonzero : 0 < y.units) :
    (x.mul y).negative = x.negative := by
  rcases x.classes with ⟨nan, _, _⟩ | ⟨_, infinite, _⟩ | ⟨_, _, bounded⟩
  · rw [nan] at known
    contradiction
  · rw [mul_factor_of_isInfinite finite positive infinite nonzero]
    rfl
  · rw [mul_of_factor finite positive bounded]
    rfl

/-- A product with a finite factor of at least one vanishes only with the datum. -/
theorem code_mul_factor_eq_zero_iff (known : x.isNaN = false) (large : F.one ≤ y.units) :
    (x.mul y).code = 0 ↔ x.code = 0 := by
  have nonzero : 0 < y.units := lt_of_lt_of_le F.one_pos large
  rcases x.classes with ⟨nan, _, _⟩ | ⟨_, infinite, _⟩ | ⟨_, _, bounded⟩
  · rw [nan] at known
    contradiction
  · have top : x.code = F.infinityCode := of_decide_eq_true infinite
    rw [mul_factor_of_isInfinite finite positive infinite nonzero, top]
    rfl
  · rw [mul_of_factor finite positive bounded, ← units_eq_zero_iff (x := x)]
    constructor
    · intro none
      by_contra some
      have grown : F.one ≤ x.units * y.units :=
        large.trans (Nat.le_mul_of_pos_left _ (Nat.pos_of_ne_zero some))
      exact (F.nearest_pos F.one_pos grown).ne' none
    · intro none
      rw [none, Nat.zero_mul]
      exact F.nearest_eq_zero F.one_pos

/-- A product with a finite factor of at least one stays on its side of zero. -/
theorem zero_atMost_mul_iff (large : F.one ≤ y.units) :
    (zero F false).atMost (x.mul y) = true ↔ (zero F false).atMost x = true := by
  have nonzero : 0 < y.units := lt_of_lt_of_le F.one_pos large
  rw [zero_atMost_iff, zero_atMost_iff, isNaN_mul_factor finite positive nonzero]
  apply and_congr_right
  intro known
  rw [negative_mul_factor finite positive known nonzero,
    code_mul_factor_eq_zero_iff finite positive known large]

end Factor

end Datum

namespace Parity

variable {tolerance : Binary32}

/-- Finite data agree if their distance is within the allowance. -/
theorem agree_of_isFinite {x y : Binary32} (left : x.isFinite = true) (right : y.isFinite = true) :
    agree x y tolerance = (distance x y).atMost (allowance x tolerance) := by
  simp only [agree, Datum.isNaN_of_isFinite left, Datum.isNaN_of_isFinite right,
    Datum.isInfinite_of_isFinite left, Datum.isInfinite_of_isFinite right, Bool.or_self,
    Bool.false_eq_true, if_false]

/-- The allowance lies on the same side of zero as the tolerance. -/
theorem zero_atMost_allowance_iff {x : Binary32} (finite : x.isFinite = true) :
    Binary32.zero.atMost (allowance x tolerance) = true ↔ Binary32.zero.atMost tolerance = true := by
  obtain ⟨bounded, positive, factor⟩ := Datum.max_one_spec binary32_holdsIntegers finite
  exact Datum.zero_atMost_mul_iff bounded positive (factor ▸ le_max_right _ _)

/-- **When a datum agrees with itself**: within a tolerance that is not below zero, and, if it is not
finite, within any. -/
theorem agree_self_iff (x tolerance : Binary32) :
    agree x x tolerance = true ↔
      Binary32.zero.atMost tolerance = true ∨ x.isFinite = false := by
  -- only for a finite datum is the tolerance looked at
  rcases x.classes with ⟨nan, _, unbounded⟩ | ⟨known, infinite, unbounded⟩ | ⟨_, _, finite⟩
  · simp [agree, nan, unbounded]
  · have same : x.equals x = true := by simp [Datum.equals, known]
    simp [agree, known, infinite, unbounded, same]
  · have nothing : distance x x = Binary32.zero := by
      rw [distance, Datum.sub, Datum.add_neg_self finite]
      rfl
    rw [agree_of_isFinite finite finite, nothing, zero_atMost_allowance_iff finite, finite]
    simp

theorem agree_self (allowed : Binary32.zero.atMost tolerance = true) (x : Binary32) :
    agree x x tolerance = true :=
  (agree_self_iff x tolerance).mpr (.inl allowed)

theorem residual_self (x : Binary32) : residual x x = Binary32.zero :=
  if_pos (agree_self (by decide) x)

/-- The expected diagnostics differ from themselves in no slot. -/
theorem mismatches_expected (allowed : Binary32.zero.atMost tolerance = true) (e : Expression) :
    mismatches e (Diagnostics.expected e) tolerance = [] := by
  unfold mismatches
  rw [List.map_eq_nil_iff, List.filter_eq_nil_iff]
  rintro ⟨⟨expected, actual⟩, slot⟩ member
  have paired := List.fst_mem_of_mem_zipIdx member
  rw [← List.map_id (Diagnostics.expected e).toList, List.zip_map'] at paired
  obtain ⟨x, _, same⟩ := List.mem_map.mp paired
  cases same
  simp [agree_self allowed]

end Parity

end DualEval
