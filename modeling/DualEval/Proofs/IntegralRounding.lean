import DualEval.Proofs.NumericOrder

/-!
# Rounding to integral data

A finite datum either denotes an integer already or is so small that every integer near it fits a
significand.  Rounding and truncation to integral data are therefore exact: the datum they answer
denotes the rounded or truncated integer itself.
-/

namespace DualEval

namespace Format

variable (F : Format)

/-- The number of units of the number one. -/
def one : Nat := 2 ^ F.unitPlaces

theorem one_pos : 0 < F.one := Nat.two_pow_pos _

/-- Integers of up to one significand fall short of infinity. -/
def HoldsIntegers : Prop := F.unitPlaces + 2 < F.exponentLimit

/-- An integer that fits a significand, counted in units, is answered exactly. -/
theorem nearest_integer (wide : F.HoldsIntegers) {q : Nat} (small : q ≤ F.fractionCount) :
    F.nearest (q * F.one) 1 < F.infinityCode ∧ F.units (F.nearest (q * F.one) 1) = q * F.one := by
  have low : F.scale (q * F.one) 1 ≤ F.unitPlaces := by
    rcases (F.scale_spec (q * F.one) 1).1 with least | leading
    · omega
    · by_contra above
      have power : 2 ^ (F.unitPlaces + 1) ≤ 2 ^ F.scale (q * F.one) 1 :=
        Nat.pow_le_pow_right (by decide) (by omega)
      have within : q * F.one ≤ F.fractionCount * F.one := Nat.mul_le_mul_right _ small
      have beyond : F.fractionCount * (2 * F.one) ≤ q * F.one := by
        rw [Nat.div_one] at leading
        refine le_trans (Nat.mul_le_mul_left _ ?_) leading
        rwa [Nat.mul_comm 2, one, ← Nat.pow_succ]
      have positive := Nat.mul_pos F.fractionCount_pos F.one_pos
      rw [Nat.mul_left_comm] at beyond
      omega
  have finite : F.nearest (q * F.one) 1 < F.infinityCode := by
    have carried := (F.significand_spec (q * F.one) 1).2
    have bound : (F.unitPlaces + 2) * F.fractionCount < F.infinityCode :=
      Nat.mul_lt_mul_of_pos_right wide F.fractionCount_pos
    have place : F.scale (q * F.one) 1 * F.fractionCount ≤ F.unitPlaces * F.fractionCount :=
      Nat.mul_le_mul_right _ low
    rw [Nat.add_mul] at bound
    rw [nearest_eq_min]
    exact lt_of_le_of_lt (Nat.min_le_right _ _) (by omega)
  exact ⟨finite, F.units_nearest_of_dvd ((pow_dvd_pow 2 low).mul_left q) finite⟩

/-- A magnitude is a whole number, or it lies below the integers that fill a significand. -/
theorem whole_or_small (code : Nat) :
    F.one ∣ F.units code ∨ F.units code / F.one < F.fractionCount := by
  obtain ⟨scale, significand, normal, bounded, rfl⟩ := F.exists_significand code
  rw [F.units_scaled normal (Nat.le_of_lt bounded)]
  by_cases coarse : F.unitPlaces ≤ scale
  · exact .inl ((pow_dvd_pow 2 coarse).mul_left significand)
  · right
    have power : 2 * 2 ^ scale ≤ F.one := by
      rw [Nat.mul_comm, ← Nat.pow_succ]
      exact Nat.pow_le_pow_right (by decide) (by omega)
    rw [Nat.div_lt_iff_lt_mul F.one_pos]
    calc significand * 2 ^ scale
        < 2 * F.fractionCount * 2 ^ scale :=
          Nat.mul_lt_mul_of_pos_right bounded (Nat.two_pow_pos _)
      _ = F.fractionCount * (2 * 2 ^ scale) := by ring
      _ ≤ F.fractionCount * F.one := Nat.mul_le_mul_left _ power

end Format

namespace Datum

variable {F : Format} {x : Datum F}

/-- An integer next to a finite datum, the datum itself if that is integral, is denoted by a finite
datum. -/
theorem ofUnits_integer (wide : F.HoldsIntegers) (finite : x.isFinite = true) {q : Nat}
    (close : q ≤ x.units / F.one + 1) (exact : F.one ∣ x.units → q * F.one = x.units) :
    (ofUnits F x.negative (q * F.one) 1).isFinite = true ∧
      (ofUnits F x.negative (q * F.one) 1).units = q * F.one := by
  rw [isFinite_iff] at finite ⊢
  rcases F.whole_or_small x.code with whole | small
  · have same : F.nearest (q * F.one) 1 = x.code := by
      rw [exact whole, units, F.nearest_units, Nat.min_eq_right (Nat.le_of_lt finite)]
    simp only [units, ofUnits, same]
    exact ⟨finite, (exact whole).symm⟩
  · exact F.nearest_integer wide (close.trans small)

theorem roundIntegral_spec (wide : F.HoldsIntegers) (finite : x.isFinite = true) :
    x.roundIntegral.isFinite = true ∧ x.roundIntegral.negative = x.negative ∧
      x.roundIntegral.units = roundQuotient x.units F.one * F.one := by
  rw [roundIntegral, if_pos finite]
  obtain ⟨bounded, integer⟩ := ofUnits_integer wide finite
    (roundQuotient_le_floor_succ x.units F.one) (by
      rintro ⟨q, whole⟩
      rw [whole, Nat.mul_comm F.one, roundQuotient_mul_self q F.one_pos])
  exact ⟨bounded, rfl, integer⟩

theorem truncate_spec (wide : F.HoldsIntegers) (finite : x.isFinite = true) :
    x.truncate.isFinite = true ∧ x.truncate.negative = x.negative ∧
      x.truncate.units = x.units / F.one * F.one := by
  rw [truncate, if_pos finite]
  obtain ⟨bounded, integer⟩ := ofUnits_integer wide finite (Nat.le_succ (x.units / F.one))
    Nat.div_mul_cancel
  exact ⟨bounded, rfl, integer⟩

end Datum

end DualEval
