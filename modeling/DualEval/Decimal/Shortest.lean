import DualEval.Decimal.Basic

/-!
# The shortest decimal that reads back

A finite datum is printed with the fewest significant digits whose decimal rounds to the datum
again, and of the decimals that short, with the one nearest to the exact value.

On the grid of multiples of a power of ten, if any multiple rounds to the datum then one of the two
multiples beside the exact value does, so only those two are tried.  Grids are tried from coarse to
fine; the exact expansion stands behind them, so the answer reads back in every case.
-/

namespace DualEval

/-- The number of decimal digits of a natural number, one for zero. -/
def decimalLength (n : Nat) : Nat := (Nat.toDigits 10 n).length

namespace Format

variable (F : Format)

/-- The least power of ten, as an exponent, above a positive magnitude. -/
def decimalMagnitude (units : Nat) : Int :=
  let one := 2 ^ F.unitPlaces
  if one ≤ units then decimalLength (units / one)
  else 1 - (decimalLength ((one - 1) / units) : Int)

/-- A magnitude of so many units as a quotient in multiples of `10 ^ grid`: numerator and
denominator. -/
def onGrid (units : Nat) (grid : Int) : Nat × Nat :=
  if 0 ≤ grid then (units, 2 ^ F.unitPlaces * 10 ^ grid.toNat)
  else (units * 10 ^ (-grid).toNat, 2 ^ F.unitPlaces)

/-- The multiple of `10 ^ grid` that reads back as the code and lies nearest to its magnitude, if
one does.  Of two equally near, the larger is taken. -/
def gridCoefficient? (code : Nat) (grid : Int) : Option Nat :=
  let (num, den) := F.onGrid (F.units code) grid
  let floor := num / den
  let lower := F.nearestDecimal floor grid = code
  let upper := F.nearestDecimal (floor + 1) grid = code
  if lower ∧ (¬ upper ∨ 2 * num < (2 * floor + 1) * den) then some floor
  else if upper then some (floor + 1)
  else none

/-- The shortest decimal, coefficient and exponent, for the magnitude with this finite code. -/
def shortest (code : Nat) : Nat × Int :=
  if code = 0 then (0, 0)
  else
    let magnitude := F.decimalMagnitude (F.units code)
    let grids := (List.range 17).map fun digits => magnitude - (digits + 1 : Nat)
    let found := grids.findSome? fun grid =>
      (F.gridCoefficient? code grid).map fun coefficient => (coefficient, grid)
    found.getD (F.units code * 5 ^ F.unitPlaces, -(F.unitPlaces : Int))

end Format

namespace Datum

variable {F : Format}

/-- The shortest decimal that reads back as a finite datum. -/
def toDecimal (x : Datum F) : Decimal :=
  let (coefficient, exponent) := F.shortest x.code
  { negative := x.negative, coefficient, exponent }

end Datum

end DualEval
