import DualEval.Binary.Basic

/-!
# Decimal numbers

A decimal is a sign, a coefficient and a power of ten.  It is rounded to a binary format once,
directly, so that no intermediate precision shows.  Exponents far outside a format's range are
answered without forming the power of ten, which keeps rounding cheap for every exponent a text can
spell.
-/

namespace DualEval

namespace Format

variable (F : Format)

/-- Whether `coefficient * 10 ^ exponent` lies above every finite magnitude, told from the exponent
alone. -/
def farAbove (exponent : Int) : Bool := ((2 ^ (F.exponentBits - 1) : Nat) : Int) ≤ exponent

/-- Whether `coefficient * 10 ^ exponent` lies below half a unit, told from the coefficient's length
in bits: eight times `8 ^ -n` stays above `10 ^ -n`. -/
def farBelow (coefficient : Nat) (exponent : Int) : Bool :=
  ((coefficient.log2 + F.unitPlaces + 2 : Nat) : Int) ≤ 3 * -exponent

/-- The code nearest to `coefficient * 10 ^ exponent`, ties to even. -/
def nearestDecimal (coefficient : Nat) (exponent : Int) : Nat :=
  if coefficient = 0 then 0
  else if F.farAbove exponent then F.infinityCode
  else if F.farBelow coefficient exponent then 0
  else if 0 ≤ exponent then
    F.nearest (coefficient * 10 ^ exponent.toNat * 2 ^ F.unitPlaces) 1
  else F.nearest (coefficient * 2 ^ F.unitPlaces) (10 ^ (-exponent).toNat)

theorem nearestDecimal_lt_codeLimit (coefficient : Nat) (exponent : Int) :
    F.nearestDecimal coefficient exponent < F.codeLimit := by
  unfold nearestDecimal
  split
  · exact Nat.two_pow_pos _
  · split
    · exact F.infinityCode_lt_codeLimit
    · split
      · exact Nat.two_pow_pos _
      · split <;> exact F.nearest_lt_codeLimit _ _

end Format

/-- The number `coefficient * 10 ^ exponent` under a sign, which a zero keeps. -/
structure Decimal where
  negative : Bool
  coefficient : Nat
  exponent : Int
deriving DecidableEq

namespace Decimal

/-- The nearest datum of a format, ties to even; the sign is kept, also on a zero. -/
def toDatum (F : Format) (d : Decimal) : Datum F :=
  ⟨d.negative, F.nearestDecimal d.coefficient d.exponent, F.nearestDecimal_lt_codeLimit _ _⟩

end Decimal

end DualEval
