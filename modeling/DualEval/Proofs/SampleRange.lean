import DualEval.Cases.Basic
import DualEval.Proofs.NearestRounding
import DualEval.Proofs.ReadBack

/-!
# The range of sampled operands

The greatest fraction is scaled to two thousand and shifted to the upper end of the range.  Rounding is
monotone, and so are the steps from a word's upper bits to its datum, so every word stands for a finite
datum of the range (`DualEval.Sample.ofWord_range`).  Hence every case reads back to the expression that
it was written from (`DualEval.Cases.parse_case`).
-/

namespace DualEval

namespace Sample

/-- The number that the upper bits of a word spell. -/
def upperBits (w : UInt32) : Nat := w.toNat / 512

theorem upperBits_lt (w : UInt32) : upperBits w < 2 ^ 23 := by
  have bound := w.toNat_lt
  unfold upperBits
  omega

theorem toNat_bits (w : UInt32) :
    (w >>> 9 ||| Binary32.one.toBits).toNat = 2 ^ 23 * 127 + upperBits w := by
  have one : Binary32.one.toBits.toNat = 2 ^ 23 * 127 := by decide +kernel
  have shifted : (w >>> 9).toNat = upperBits w := by
    rw [UInt32.toNat_shiftRight, Nat.shiftRight_eq_div_pow]
    rfl
  rw [UInt32.toNat_or, one, shifted, Nat.or_comm, ← Nat.two_pow_add_eq_or_of_lt (upperBits_lt w)]

theorem ofBits_of_lt {bits : UInt32} (low : bits.toNat < binary32.codeLimit) :
    (Binary32.ofBits bits).negative = false ∧ (Binary32.ofBits bits).code = bits.toNat :=
  ⟨decide_eq_false (Nat.not_le.mpr low), Nat.mod_eq_of_lt low⟩

/-- With the exponent of one before them, the upper bits are the places after the point. -/
theorem ofBits_onePlus (w : UInt32) :
    let x := Binary32.ofBits (w >>> 9 ||| Binary32.one.toBits)
    x.isFinite = true ∧ x.negative = false ∧
      x.signedUnits = ((2 ^ 23 + upperBits w) * 2 ^ 126 : Nat) := by
  intro x
  have bound := upperBits_lt w
  have bits := toNat_bits w
  have fractions : binary32.fractionCount = 2 ^ 23 := rfl
  have last : binary32.infinityCode = 2 ^ 23 * 255 := by decide
  obtain ⟨positive, code⟩ : x.negative = false ∧ x.code = _ := by
    apply ofBits_of_lt
    rw [bits, Binary32.codeLimit_eq]
    omega
  have place : x.code = 126 * binary32.fractionCount + (2 ^ 23 + upperBits w) := by
    rw [code, bits, fractions]
    omega
  refine ⟨?_, positive, ?_⟩
  · rw [Datum.isFinite_iff, place, last, fractions]
    omega
  · have units : x.units = (2 ^ 23 + upperBits w) * 2 ^ 126 := by
      rw [Datum.units, place, binary32.units_scaled]
      · exact .inr (Nat.le_add_right _ _)
      · rw [fractions]
        omega
    rw [Datum.signedUnits, positive, units]
    rfl

/-- A fraction is nonnegative and nearest to its upper bits, counted in last places below one. -/
theorem fraction_spec (w : UInt32) :
    (fraction w).negative = false ∧ (fraction w).code = binary32.nearest (upperBits w * 2 ^ 126) 1 := by
  obtain ⟨finite, positive, value⟩ := ofBits_onePlus w
  have one : Binary32.one.neg.isFinite = true ∧ Binary32.one.neg.signedUnits = -(2 ^ 149 : Nat) := by
    decide +kernel
  unfold fraction
  generalize Binary32.ofBits _ = x at finite positive value ⊢
  have sum : x.signedUnits + Binary32.one.neg.signedUnits = (upperBits w * 2 ^ 126 : Nat) := by
    rw [value, one.2]
    omega
  constructor
  · rw [Datum.sub, Datum.add_of_isFinite finite one.1, sum]
    split
    · simp [Datum.zero, positive]
    · simp [Datum.ofUnits]
  · rw [Datum.sub, Datum.code_add finite one.1, sum, Int.natAbs_natCast]

theorem code_fraction_le (w : UInt32) : (fraction w).code ≤ greatestFraction.code := by
  have all : upperBits 0xffffffff = 2 ^ 23 - 1 := rfl
  rw [greatestFraction, (fraction_spec w).2, (fraction_spec 0xffffffff).2]
  apply Format.nearest_mono _ Nat.one_pos
  apply Nat.mul_le_mul_right
  rw [all]
  exact Nat.le_sub_one_of_lt (upperBits_lt w)

theorem scale_spec : scale.isFinite = true ∧ scale.negative = false := by decide +kernel

/-- The scale takes the greatest fraction to the width of the range. -/
theorem greatestFraction_spec : greatestFraction.isFinite = true ∧
    (greatestFraction.mul scale).isFinite = true ∧
    (greatestFraction.mul scale).units = 2000 * binary32.one := by
  decide +kernel

/-- A scaled fraction lies between zero and the width of the range. -/
theorem scaled_spec (w : UInt32) :
    ((fraction w).mul scale).isFinite = true ∧ ((fraction w).mul scale).negative = false ∧
      ((fraction w).mul scale).units ≤ 2000 * binary32.one := by
  obtain ⟨bounded, finite, width⟩ := greatestFraction_spec
  obtain ⟨scaleFinite, scalePositive⟩ := scale_spec
  have low := code_fraction_le w
  have fractionFinite : (fraction w).isFinite = true :=
    Datum.isFinite_iff.mpr (lt_of_le_of_lt low (Datum.isFinite_iff.mp bounded))
  have below : ((fraction w).mul scale).code ≤ (greatestFraction.mul scale).code := by
    rw [Datum.mul_of_isFinite fractionFinite scaleFinite, Datum.mul_of_isFinite bounded scaleFinite]
    apply Format.nearest_mono _ binary32.one_pos
    exact Nat.mul_le_mul_right _ (binary32.units_strictMono.monotone low)
  refine ⟨Datum.isFinite_iff.mpr (lt_of_le_of_lt below (Datum.isFinite_iff.mp finite)), ?_, ?_⟩
  · rw [Datum.mul_of_isFinite fractionFinite scaleFinite, Datum.ofUnits, (fraction_spec w).1,
      scalePositive]
    rfl
  · rw [← width]
    exact binary32.units_strictMono.monotone below

theorem ends_spec : high.isFinite = true ∧ high.negative = false ∧ low = high.neg ∧
    low.isFinite = true ∧ low.signedUnits = -(1000 * binary32.one : Nat) ∧
    high.code = binary32.nearest (1000 * binary32.one) 1 := by
  decide +kernel

theorem code_ofWord_le (w : UInt32) : (ofWord w).code ≤ high.code := by
  obtain ⟨finite, positive, width⟩ := scaled_spec w
  obtain ⟨_, _, _, lowFinite, lowUnits, highCode⟩ := ends_spec
  have value : ((fraction w).mul scale).signedUnits = ((fraction w).mul scale).units := by
    rw [Datum.signedUnits, positive]
    rfl
  rw [ofWord, place, Datum.code_add finite lowFinite, lowUnits, highCode, value]
  apply Format.nearest_mono _ Nat.one_pos
  omega

end Sample

namespace Datum

variable {F : Format} {x bound : Datum F}

/-- Data of no greater magnitude than a bound lie between its two signs. -/
theorem between_of_code_le (finite : bound.isFinite = true) (positive : bound.negative = false)
    (low : x.code ≤ bound.code) :
    x.isFinite = true ∧ bound.neg.atMost x = true ∧ x.atMost bound = true := by
  have bounded : x.isFinite = true := isFinite_iff.mpr (lt_of_le_of_lt low (isFinite_iff.mp finite))
  have opposite : bound.neg.isFinite = true := finite
  have key : bound.neg.orderKey = -bound.code := by simp [orderKey, neg, positive]
  have key' : bound.orderKey = bound.code := by simp [orderKey, positive]
  have between : -(bound.code : Int) ≤ x.orderKey ∧ x.orderKey ≤ bound.code := by
    unfold orderKey
    split <;> omega
  simp [atMost, isNaN_of_isFinite, bounded, finite, opposite, key, key', between]

end Datum

/-- **Every word stands for a finite datum of the range.** -/
theorem Sample.ofWord_range (w : UInt32) :
    (ofWord w).isFinite = true ∧ low.atMost (ofWord w) = true ∧ (ofWord w).atMost high = true := by
  obtain ⟨finite, positive, opposite, _⟩ := ends_spec
  rw [opposite]
  exact Datum.between_of_code_le finite positive (code_ofWord_le w)

namespace Cases

theorem stress_isFinite : ∀ e ∈ stress,
    e.left.isFinite = true ∧ e.right.isFinite = true ∧ e.reserved = Binary32.zero := by
  decide +kernel

/-- The expressions of both sets, in the order in which they are evaluated. -/
def expressions (count : Nat) (seed : UInt64) : List Expression := generate count seed ++ stress

variable {count : Nat} {seed : UInt64} {e : Expression}

theorem texts_eq (count : Nat) (seed : UInt64) :
    (sets count seed).flatMap CaseSet.cases = (expressions count seed).map Expression.inputText := by
  simp [sets, expressions]

theorem isFinite_of_mem (member : e ∈ expressions count seed) :
    e.left.isFinite = true ∧ e.right.isFinite = true ∧ e.reserved = Binary32.zero := by
  rcases List.mem_append.mp member with drawn | fixed
  · obtain ⟨number, _, rfl⟩ := List.mem_map.mp drawn
    exact ⟨(Sample.ofWord_range _).1, (Sample.ofWord_range _).1, rfl⟩
  · exact stress_isFinite e fixed

/-- **Every case reads back** to the expression that it was written from. -/
theorem parse_case (member : e ∈ expressions count seed) : Expression.parse e.inputText = .ok e := by
  obtain ⟨left, right, reserved⟩ := isFinite_of_mem member
  rw [Expression.inputText, Expression.parse_layOut, Expression.readBack]
  simp [left, right, ← reserved]

end Cases

end DualEval
