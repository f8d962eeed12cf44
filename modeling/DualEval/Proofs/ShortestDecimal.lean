import DualEval.Decimal.Shortest
import DualEval.Proofs.DecimalRounding
import DualEval.Proofs.NumericOrder

/-!
# The shortest decimal reads back

Whatever grid the search stops at, the decimal it answers was tested by rounding it; and where no
grid would do, the exact expansion of the magnitude is answered, which rounding leaves alone.
-/

namespace DualEval

namespace Format

variable (F : Format) {code : Nat}

/-- A coefficient found on a grid was tested to read back. -/
theorem nearestDecimal_of_gridCoefficient? {coefficient : Nat} {grid : Int}
    (found : F.gridCoefficient? code grid = some coefficient) :
    F.nearestDecimal coefficient grid = code := by
  simp only [gridCoefficient?] at found
  split at found
  case isTrue lower =>
    obtain rfl := Option.some.inj found
    exact lower.1
  case isFalse =>
    split at found
    case isTrue upper =>
      obtain rfl := Option.some.inj found
      exact upper
    case isFalse => contradiction

/-- The exact expansion of a finite magnitude reads back. -/
theorem nearestDecimal_expansion (finite : code < F.infinityCode) :
    F.nearestDecimal (F.units code * 5 ^ F.unitPlaces) (-(F.unitPlaces : Int)) = code := by
  have whole : (-(F.unitPlaces : Int)).toNat = 0 := by omega
  have exact : F.units code * 5 ^ F.unitPlaces * 10 ^ 0 * 2 ^ F.unitPlaces * 1 =
      F.units code * 10 ^ F.unitPlaces := by
    rw [Nat.pow_zero, Nat.mul_one, Nat.mul_one, Nat.mul_assoc, ← Nat.mul_pow]
  rw [nearestDecimal_eq_nearest, decimalNum, whole, neg_neg, Int.toNat_natCast,
    F.nearest_congr (Nat.pow_pos (by decide)) Nat.one_pos exact, F.nearest_units,
    Nat.min_eq_right (Nat.le_of_lt finite)]

/-- The shortest decimal of a finite magnitude reads back as its code. -/
theorem nearestDecimal_shortest (finite : code < F.infinityCode) :
    F.nearestDecimal (F.shortest code).1 (F.shortest code).2 = code := by
  by_cases none : code = 0
  · subst none
    rfl
  · simp only [shortest, if_neg none]
    generalize List.map _ (List.range 17) = grids
    cases search : grids.findSome? fun grid =>
        (F.gridCoefficient? code grid).map fun coefficient => (coefficient, grid) with
    | none => exact F.nearestDecimal_expansion finite
    | some found =>
      obtain ⟨grid, _, answered⟩ := List.exists_of_findSome?_eq_some search
      obtain ⟨coefficient, tested, rfl⟩ := Option.map_eq_some_iff.mp answered
      exact F.nearestDecimal_of_gridCoefficient? tested

end Format

namespace Datum

variable {F : Format} {x : Datum F}

/-- **A finite datum is the one nearest to its shortest decimal.** -/
theorem toDatum_toDecimal (finite : x.isFinite = true) : x.toDecimal.toDatum F = x :=
  eq_of_fields rfl (F.nearestDecimal_shortest (isFinite_iff.mp finite))

theorem coefficient_toDecimal_of_isZero (nothing : x.isZero = true) :
    x.toDecimal.coefficient = 0 := by
  have none : x.code = 0 := by simpa [isZero] using nothing
  simp only [toDecimal, Format.shortest, none, if_true]

end Datum

end DualEval
