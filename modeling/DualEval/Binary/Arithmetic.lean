import DualEval.Binary.Basic

/-!
# Floating-point arithmetic

Each operation disposes of NaNs, infinities and zero divisors by sign, and otherwise rounds the
exact result once, to nearest with ties to even.  Subnormal results are kept.  An invalid operation
answers the quiet NaN; the sign and payload of a NaN carry no meaning.
-/

namespace DualEval

namespace Datum

variable {F : Format}

/-- The same magnitude with the other sign. -/
def neg (x : Datum F) : Datum F := ⟨!x.negative, x.code, x.code_lt⟩

/-- The same magnitude with the positive sign. -/
def abs (x : Datum F) : Datum F := ⟨false, x.code, x.code_lt⟩

/-- The rounded sum.  An exact zero is negative only when both terms are. -/
def add (x y : Datum F) : Datum F :=
  if x.isNaN || y.isNaN then quietNaN F
  else if x.isInfinite then
    if y.isInfinite && x.negative != y.negative then quietNaN F else x
  else if y.isInfinite then y
  else
    let sum := x.signedUnits + y.signedUnits
    if sum = 0 then zero F (x.negative && y.negative)
    else ofUnits F (sum < 0) sum.natAbs 1

/-- The rounded difference. -/
def sub (x y : Datum F) : Datum F := x.add y.neg

/-- The rounded product; zero times infinity is invalid. -/
def mul (x y : Datum F) : Datum F :=
  let negative := x.negative != y.negative
  if x.isNaN || y.isNaN then quietNaN F
  else if x.isInfinite || y.isInfinite then
    if x.isZero || y.isZero then quietNaN F else infinity F negative
  else ofUnits F negative (x.units * y.units) (2 ^ F.unitPlaces)

/-- The rounded quotient; zero over zero and infinity over infinity are invalid, and any other
number over zero is an infinity. -/
def div (x y : Datum F) : Datum F :=
  let negative := x.negative != y.negative
  if x.isNaN || y.isNaN then quietNaN F
  else if x.isInfinite then
    if y.isInfinite then quietNaN F else infinity F negative
  else if y.isInfinite then zero F negative
  else if y.isZero then
    if x.isZero then quietNaN F else infinity F negative
  else ofUnits F negative (x.units * 2 ^ F.unitPlaces) y.units

/-- The larger of two data; a NaN gives way to the other one. -/
def max (x y : Datum F) : Datum F :=
  if x.isNaN then y
  else if y.isNaN then x
  else if x.below y then y
  else x

/-- The integer that a datum denotes, when it denotes one. -/
def toInt? (x : Datum F) : Option Int :=
  if x.isFinite && x.units % 2 ^ F.unitPlaces == 0 then
    some (x.signedUnits / (2 ^ F.unitPlaces : Nat))
  else none

/-- The nearest integral datum, ties to even; the sign of a zero is kept, and infinities and NaNs
are left alone. -/
def roundIntegral (x : Datum F) : Datum F :=
  if x.isFinite then
    ofUnits F x.negative (roundQuotient x.units (2 ^ F.unitPlaces) * 2 ^ F.unitPlaces) 1
  else x

/-- The integral datum next to a finite one in the direction of zero; the sign of a zero is kept, and
infinities and NaNs are left alone. -/
def truncate (x : Datum F) : Datum F :=
  if x.isFinite then ofUnits F x.negative (x.units / 2 ^ F.unitPlaces * 2 ^ F.unitPlaces) 1 else x

/-- What truncation takes away; an infinity has no such part, and answers a NaN. -/
def fraction (x : Datum F) : Datum F := x.sub x.truncate

/-- The signed 64-bit integer next to a datum in the direction of zero.  Data out of range answer
the bound they lie beyond, and a NaN answers zero. -/
def toInt64 (x : Datum F) : Int :=
  if x.isNaN then 0
  else if x.isInfinite then (if x.negative then Int64.minValue.toInt else Int64.maxValue.toInt)
  else
    let magnitude : Int := (x.units / 2 ^ F.unitPlaces : Nat)
    Max.max Int64.minValue.toInt
      (Min.min Int64.maxValue.toInt (if x.negative then -magnitude else magnitude))

/-- The nearest datum of another format; every NaN becomes the quiet one. -/
def convert (G : Format) (x : Datum F) : Datum G :=
  if x.isNaN then quietNaN G
  else if x.isInfinite then infinity G x.negative
  else ofUnits G x.negative (x.units * 2 ^ G.unitPlaces) (2 ^ F.unitPlaces)

/-- The datum one code below, toward zero; zero stays. -/
def towardZero (x : Datum F) : Datum F :=
  ⟨x.negative, x.code - 1, Nat.lt_of_le_of_lt (Nat.sub_le _ _) x.code_lt⟩

end Datum

end DualEval
