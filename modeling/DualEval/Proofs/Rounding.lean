import DualEval.Binary.Arithmetic
import Mathlib.Order.Monotone.Basic
import Mathlib.Tactic.Ring

/-!
# Exactness of rounding

A code is a scale and a significand: the significand counts units of `2 ^ scale`, and it has a leading
bit unless the scale is zero.  Read this way, `units` is strictly increasing, and `nearest` rounds
the significand at the scale of its argument.  Hence a magnitude that is already a whole number of
places of its own binade is answered exactly, and rounding depends on the quotient alone.
-/

namespace DualEval

/-! ### Rounded quotients -/

theorem floor_le_roundQuotient (num den : Nat) : num / den ≤ roundQuotient num den := by
  unfold roundQuotient
  grind

theorem roundQuotient_le_floor_succ (num den : Nat) : roundQuotient num den ≤ num / den + 1 := by
  unfold roundQuotient
  grind

/-- A common factor of numerator and denominator plays no part. -/
theorem roundQuotient_mul_left {k : Nat} (positive : 0 < k) (num den : Nat) :
    roundQuotient (k * num) (k * den) = roundQuotient num den := by
  have floor : k * num / (k * den) = num / den := Nat.mul_div_mul_left _ _ positive
  have rest : k * num % (k * den) = k * (num % den) := Nat.mul_mod_mul_left ..
  have left : 2 * (k * (num % den)) = k * (2 * (num % den)) := Nat.mul_left_comm ..
  simp only [roundQuotient, floor, rest, left, Nat.mul_lt_mul_left positive]

/-- A whole quotient is left alone. -/
theorem roundQuotient_mul_self (n : Nat) {den : Nat} (positive : 0 < den) :
    roundQuotient (n * den) den = n := by
  simp only [roundQuotient, Nat.mul_mod_left, Nat.mul_div_cancel n positive, Nat.mul_zero,
    if_pos positive]

/-- A quotient below one half is rounded to zero. -/
theorem roundQuotient_eq_zero {num den : Nat} (small : 2 * num < den) :
    roundQuotient num den = 0 := by
  have below : num < den := by omega
  simp only [roundQuotient, Nat.div_eq_of_lt below, Nat.mod_eq_of_lt below, if_pos small]

namespace Format

variable (F : Format)

/-! ### Codes as scaled significands -/

/-- The code of a significand at a scale names the significand times a power of two.  A significand
that has carried into the next binade is included. -/
theorem units_scaled {scale significand : Nat}
    (normal : scale = 0 ∨ F.fractionCount ≤ significand)
    (bounded : significand ≤ 2 * F.fractionCount) :
    F.units (scale * F.fractionCount + significand) = significand * 2 ^ scale := by
  have positive := F.fractionCount_pos
  by_cases short : significand < F.fractionCount
  · have least : scale = 0 := by omega
    subst least
    simp only [units, Nat.zero_mul, Nat.zero_add, Nat.div_eq_of_lt short, Nat.mod_eq_of_lt short,
      if_pos, Nat.pow_zero, Nat.mul_one]
  · by_cases carried : significand = 2 * F.fractionCount
    · subst carried
      simp only [units, ← Nat.add_mul, Nat.mul_div_cancel _ positive, Nat.mul_mod_left]
      rw [if_neg (by omega), Nat.add_zero, show scale + 2 - 1 = scale + 1 from rfl, Nat.pow_succ]
      ring
    · obtain ⟨fraction, rfl⟩ : ∃ fraction, significand = F.fractionCount + fraction :=
        Nat.exists_eq_add_of_le (by omega)
      have small : fraction < F.fractionCount := by omega
      have shape : scale * F.fractionCount + (F.fractionCount + fraction) =
          fraction + F.fractionCount * (scale + 1) := by ring
      simp only [units, shape, Nat.add_mul_div_left _ _ positive, Nat.add_mul_mod_self_left,
        Nat.div_eq_of_lt small, Nat.mod_eq_of_lt small]
      rw [if_neg (by omega), Nat.zero_add, Nat.add_sub_cancel]

/-- Every code is that of a significand at a scale. -/
theorem exists_significand (code : Nat) :
    ∃ scale significand, (scale = 0 ∨ F.fractionCount ≤ significand) ∧
      significand < 2 * F.fractionCount ∧ code = scale * F.fractionCount + significand := by
  have positive := F.fractionCount_pos
  have small := Nat.mod_lt code positive
  have split := Nat.div_add_mod code F.fractionCount
  cases exponent : code / F.fractionCount with
  | zero =>
    rw [exponent, Nat.mul_zero, Nat.zero_add] at split
    exact ⟨0, code, .inl rfl, by omega, by omega⟩
  | succ scale =>
    rw [exponent] at split
    refine ⟨scale, F.fractionCount + code % F.fractionCount, .inr (by omega), by omega, ?_⟩
    rw [← split, Nat.mul_add_mod, Nat.mod_eq_of_lt small]
    ring

theorem units_lt_units_succ (code : Nat) : F.units code < F.units (code + 1) := by
  obtain ⟨scale, significand, normal, bounded, rfl⟩ := F.exists_significand code
  rw [Nat.add_assoc, F.units_scaled normal (by omega), F.units_scaled (by omega) (by omega)]
  exact Nat.mul_lt_mul_of_pos_right (Nat.lt_succ_self _) (Nat.two_pow_pos _)

/-- Codes are ordered like the magnitudes they name. -/
theorem units_strictMono : StrictMono F.units :=
  strictMono_nat_of_lt_succ F.units_lt_units_succ

@[simp]
theorem units_zero : F.units 0 = 0 := by
  simp [units]

/-! ### The scale of a magnitude -/

/-- The power of two in which a magnitude's significand is counted. -/
def scale (num den : Nat) : Nat := (num / den).log2 - F.fractionBits

theorem nearest_eq_min (num den : Nat) :
    F.nearest num den = min F.infinityCode (F.scale num den * F.fractionCount +
      roundQuotient num (den * 2 ^ F.scale num den)) := rfl

theorem fractionCount_mul_two_pow (scale : Nat) :
    F.fractionCount * 2 ^ scale = 2 ^ (F.fractionBits + scale) := by
  rw [fractionCount, Nat.pow_add]

theorem two_mul_fractionCount_mul_two_pow (scale : Nat) :
    2 * F.fractionCount * 2 ^ scale = 2 ^ (F.fractionBits + scale + 1) := by
  rw [Nat.mul_assoc, fractionCount_mul_two_pow, Nat.pow_succ, Nat.mul_comm]

/-- The scale is told by the binade of the quotient. -/
theorem scale_eq {num den scale : Nat}
    (normal : scale = 0 ∨ F.fractionCount * 2 ^ scale ≤ num / den)
    (bounded : num / den < 2 * F.fractionCount * 2 ^ scale) : F.scale num den = scale := by
  rw [two_mul_fractionCount_mul_two_pow] at bounded
  rw [Format.scale]
  by_cases none : num / den = 0
  · have positive : 0 < F.fractionCount * 2 ^ scale :=
      Nat.mul_pos F.fractionCount_pos (Nat.two_pow_pos _)
    have least : scale = 0 := by omega
    rw [none, least, Nat.log2_zero, Nat.zero_sub]
  · have below : (num / den).log2 < F.fractionBits + scale + 1 :=
      (Nat.log2_lt none).mpr bounded
    rcases normal with least | leading
    · omega
    · have above : F.fractionBits + scale ≤ (num / den).log2 :=
        (Nat.le_log2 none).mpr (F.fractionCount_mul_two_pow scale ▸ leading)
      omega

/-- At its scale a magnitude has a leading bit, unless the scale is zero, and no bit above it. -/
theorem scale_spec (num den : Nat) :
    (F.scale num den = 0 ∨ F.fractionCount * 2 ^ F.scale num den ≤ num / den) ∧
      num / den < 2 * F.fractionCount * 2 ^ F.scale num den := by
  rw [two_mul_fractionCount_mul_two_pow, fractionCount_mul_two_pow, Format.scale]
  by_cases none : num / den = 0
  · rw [none, Nat.log2_zero, Nat.zero_sub]
    exact ⟨.inl rfl, Nat.two_pow_pos _⟩
  · refine ⟨?_, (Nat.log2_lt none).mp (by omega)⟩
    by_cases least : (num / den).log2 ≤ F.fractionBits
    · exact .inl (by omega)
    · exact .inr ((Nat.le_log2 none).mp (by omega))

/-- The rounded significand has a leading bit unless the scale is zero, and carries at most into
the next binade. -/
theorem significand_spec (num den : Nat) :
    (F.scale num den = 0 ∨
        F.fractionCount ≤ roundQuotient num (den * 2 ^ F.scale num den)) ∧
      roundQuotient num (den * 2 ^ F.scale num den) ≤ 2 * F.fractionCount := by
  obtain ⟨normal, bounded⟩ := F.scale_spec num den
  have power := Nat.two_pow_pos (F.scale num den)
  have floor : num / (den * 2 ^ F.scale num den) = num / den / 2 ^ F.scale num den :=
    (Nat.div_div_eq_div_mul _ _ _).symm
  have low := floor_le_roundQuotient num (den * 2 ^ F.scale num den)
  have high := roundQuotient_le_floor_succ num (den * 2 ^ F.scale num den)
  rw [floor] at low high
  have under : num / den / 2 ^ F.scale num den < 2 * F.fractionCount :=
    (Nat.div_lt_iff_lt_mul power).mpr bounded
  refine ⟨normal.imp_right fun leading => ?_, by omega⟩
  exact ((Nat.le_div_iff_mul_le power).mpr leading).trans low

/-! ### Exact answers -/

/-- A finite answer of `nearest` names the rounded significand at the scale of the argument. -/
theorem units_nearest {num den : Nat} (finite : F.nearest num den < F.infinityCode) :
    F.units (F.nearest num den) =
      roundQuotient num (den * 2 ^ F.scale num den) * 2 ^ F.scale num den := by
  obtain ⟨normal, bounded⟩ := F.significand_spec num den
  rw [nearest_eq_min] at finite ⊢
  rw [Nat.min_eq_right (by omega)]
  exact F.units_scaled normal bounded

theorem nearest_eq_zero {num den : Nat} (small : 2 * num < den) : F.nearest num den = 0 := by
  have least : F.scale num den = 0 := by
    rw [scale, Nat.div_eq_of_lt (by omega), Nat.log2_zero, Nat.zero_sub]
  rw [nearest_eq_min, least, Nat.zero_mul, Nat.zero_add, Nat.pow_zero, Nat.mul_one,
    roundQuotient_eq_zero small, Nat.min_zero]

/-- A magnitude of at least one unit does not vanish. -/
theorem nearest_pos {num den : Nat} (positive : 0 < den) (whole : den ≤ num) :
    0 < F.nearest num den := by
  have full := F.fractionCount_pos
  rw [nearest_eq_min, Nat.lt_min]
  refine ⟨F.infinityCode_pos, ?_⟩
  rcases (F.significand_spec num den).1 with least | leading
  · have unit : 1 ≤ num / den := (Nat.one_le_div_iff positive).mpr whole
    rw [least, Nat.pow_zero, Nat.mul_one]
    exact Nat.lt_of_lt_of_le unit (Nat.le_add_left_of_le (floor_le_roundQuotient num den))
  · omega

/-- The magnitude of a code reads back as the code, and as infinity when it is too large. -/
theorem nearest_units (code : Nat) : F.nearest (F.units code) 1 = min F.infinityCode code := by
  obtain ⟨scale, significand, normal, bounded, rfl⟩ := F.exists_significand code
  have power := Nat.two_pow_pos scale
  have units := F.units_scaled normal (Nat.le_of_lt bounded)
  have atScale : F.scale (F.units (scale * F.fractionCount + significand)) 1 = scale := by
    apply F.scale_eq
    · rw [units, Nat.div_one]
      exact normal.imp_right fun leading => Nat.mul_le_mul_right _ leading
    · rw [units, Nat.div_one]
      exact Nat.mul_lt_mul_of_pos_right bounded power
  rw [nearest_eq_min, atScale, units, Nat.one_mul, roundQuotient_mul_self _ power]

/-- Rounding depends on the quotient alone. -/
theorem nearest_mul_left {k : Nat} (positive : 0 < k) (num den : Nat) :
    F.nearest (k * num) (k * den) = F.nearest num den := by
  have same : F.scale (k * num) (k * den) = F.scale num den := by
    rw [Format.scale, Nat.mul_div_mul_left _ _ positive, Format.scale]
  rw [nearest_eq_min, nearest_eq_min, same, Nat.mul_assoc, roundQuotient_mul_left positive]

/-- A whole number of places of its own binade is answered exactly. -/
theorem units_nearest_of_dvd {n : Nat} (whole : 2 ^ F.scale n 1 ∣ n)
    (finite : F.nearest n 1 < F.infinityCode) : F.units (F.nearest n 1) = n := by
  rw [F.units_nearest finite, Nat.one_mul]
  generalize F.scale n 1 = scale at whole ⊢
  obtain ⟨significand, rfl⟩ := whole
  rw [Nat.mul_comm (2 ^ scale), roundQuotient_mul_self _ (Nat.two_pow_pos scale)]

end Format

end DualEval
