import DualEval.Proofs.NearestRounding

/-!
# The error of rounding

A number of units is rounded at the scale of its binade, and is off by at most half a place there.  Above
the least scale this is a fixed fraction of the number; at the least scale it is half a unit, and nothing
at all for a whole number of units.  Sums of data are whole numbers of units, so their error is relative
throughout (`DualEval.Format.nearest_whole_error`), while products and quotients can lose half a unit
more (`DualEval.Format.nearest_error`).
-/

namespace DualEval

/-- A rounded quotient is off by at most one half. -/
theorem roundQuotient_error (num : Nat) {den : Nat} (positive : 0 < den) :
    |(num : ℚ) / den - roundQuotient num den| ≤ 1 / 2 := by
  have scale : (0 : ℚ) < den := by exact_mod_cast positive
  have split := Nat.div_add_mod num den
  have rest := Nat.mod_lt num positive
  have close : 2 * num ≤ 2 * (den * roundQuotient num den) + den ∧
      2 * (den * roundQuotient num den) ≤ 2 * num + den := by
    unfold roundQuotient
    generalize num / den = floor at split ⊢
    generalize num % den = remainder at split rest ⊢
    have next : den * (floor + 1) = den * floor + den := Nat.mul_succ den floor
    -- where the rest is just one half, the parity of the floor decides
    rcases Nat.mod_two_eq_zero_or_one floor with even | odd
    · simp only [even, Nat.add_zero]
      split_ifs <;> omega
    · simp only [odd]
      split_ifs <;> omega
  have above : (2 * num : ℚ) ≤ 2 * (den * roundQuotient num den) + den := by exact_mod_cast close.1
  have below : 2 * (den * roundQuotient num den : ℚ) ≤ 2 * num + den := by exact_mod_cast close.2
  rw [abs_sub_le_iff, sub_le_iff_le_add, sub_le_comm, div_le_iff₀ scale, le_div_iff₀ scale]
  constructor <;> linarith

namespace Format

variable {F : Format} {num den n : Nat}

variable (F) in
theorem isNearest_nearest_whole (n : Nat) : F.IsNearest n (F.nearest n 1) := by
  have nearest : F.IsNearest ((n : ℚ) / (1 : Nat)) (F.nearest n 1) := F.isNearest_nearest Nat.one_pos
  rwa [Nat.cast_one, div_one] at nearest

/-- A finite answer is off by at most half a place at the scale of the number. -/
theorem nearest_scaled_error (positive : 0 < den) (finite : F.nearest num den < F.infinityCode) :
    |(num : ℚ) / den - F.units (F.nearest num den)| ≤ 2 ^ F.scale num den / 2 := by
  have power : (0 : ℚ) < 2 ^ F.scale num den := by positivity
  have error := roundQuotient_error num (Nat.mul_pos positive (Nat.two_pow_pos (F.scale num den)))
  rw [F.units_nearest finite]
  push_cast at error ⊢
  calc |(num : ℚ) / den - roundQuotient num (den * 2 ^ F.scale num den) * 2 ^ F.scale num den|
      = |(num : ℚ) / (den * 2 ^ F.scale num den) - roundQuotient num (den * 2 ^ F.scale num den)| *
          2 ^ F.scale num den := by
        rw [← abs_of_pos power, ← abs_mul, abs_of_pos power, sub_mul, div_mul_eq_mul_div,
          mul_div_mul_right _ _ power.ne']
    _ ≤ 1 / 2 * 2 ^ F.scale num den := mul_le_mul_of_nonneg_right error power.le
    _ = 2 ^ F.scale num den / 2 := by ring

/-- Above the least scale half a place is a fixed fraction of the number. -/
theorem half_place_le (positive : 0 < den) (above : F.scale num den ≠ 0) :
    (2 : ℚ) ^ F.scale num den / 2 ≤ num / den / (2 * F.fractionCount) := by
  have full : (0 : ℚ) < F.fractionCount := by exact_mod_cast F.fractionCount_pos
  have leading := (F.scale_spec num den).1.resolve_left above
  have filled : (F.fractionCount * 2 ^ F.scale num den : ℚ) ≤ num / den := by
    rw [le_div_iff₀ (by exact_mod_cast positive)]
    exact_mod_cast (Nat.le_div_iff_mul_le positive).mp leading
  rw [le_div_iff₀ (by positivity)]
  linarith

/-- **The error of rounding**: a fixed fraction of the number and half a unit. -/
theorem nearest_error (positive : 0 < den) (finite : F.nearest num den < F.infinityCode) :
    |(num : ℚ) / den - F.units (F.nearest num den)| ≤ num / den / (2 * F.fractionCount) + 1 / 2 := by
  refine (nearest_scaled_error positive finite).trans ?_
  by_cases least : F.scale num den = 0
  · have nonnegative : (0 : ℚ) ≤ num / den / (2 * F.fractionCount) := by positivity
    rw [least, pow_zero]
    linarith
  · have place := half_place_le positive least
    linarith

/-- **The error of rounding a whole number** is a fixed fraction of it. -/
theorem nearest_whole_error (finite : F.nearest n 1 < F.infinityCode) :
    |(n : ℚ) - F.units (F.nearest n 1)| ≤ n / (2 * F.fractionCount) := by
  by_cases least : F.scale n 1 = 0
  · have exact : F.units (F.nearest n 1) = n := by
      apply F.units_nearest_of_dvd _ finite
      rw [least, pow_zero]
      exact one_dvd n
    rw [exact, sub_self, abs_zero]
    positivity
  · have error := nearest_scaled_error Nat.one_pos finite
    have place := half_place_le Nat.one_pos least
    rw [Nat.cast_one, div_one] at error place
    exact error.trans place

/-! ### The 32-bit format -/

theorem binary32_one : (binary32.one : ℚ) = 2 ^ 149 := by
  norm_num [Format.one, Format.unitPlaces, binary32]

theorem binary32_fractionCount : (binary32.fractionCount : ℚ) = 2 ^ 23 := by
  norm_num [Format.fractionCount, binary32]

/-- Half a place above the greatest finite number overflow begins. -/
theorem IsNearest.lt_infinityCode_iff {m : ℚ} {code : Nat} (nearest : binary32.IsNearest m code) :
    code < binary32.infinityCode ↔ m < (2 ^ 128 - 2 ^ 103) * binary32.one := by
  have last : binary32.infinityCode = 2139095039 + 1 := by decide
  have below : binary32.units 2139095039 = (2 ^ 128 - 2 ^ 104) * 2 ^ 149 := by decide
  have above : binary32.units (2139095039 + 1) = 2 ^ 128 * 2 ^ 149 := by decide
  have middle : (binary32.units 2139095039 : ℚ) + binary32.units (2139095039 + 1) =
      2 * ((2 ^ 128 - 2 ^ 103) * binary32.one) := by
    rw [below, above, binary32_one]
    norm_num
  have odd : ¬ 2 ∣ 2139095039 := by decide
  rw [last, Nat.lt_succ_iff, nearest.le_iff (last ▸ Nat.lt_succ_self _), middle,
    mul_lt_mul_iff_right₀ two_pos]
  simp only [odd, and_false, or_false]

end Format

end DualEval
