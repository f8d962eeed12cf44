import DualEval.Decimal.Shortest

/-!
# Writing numbers

Two styles write the shortest decimal of a datum.  The plain one is positional at every magnitude
and leaves integers without a point.  The marked one shows a point in every positional number and
turns to the exponent form below `10 ^ -4` and from `10 ^ 16` upward.  A third writer, for reports,
rounds the exact value to four significant digits.
-/

namespace DualEval

namespace Decimal

/-- How a number is laid out. -/
structure Layout where
  /-- Whether an integer in positional form ends in a point and a zero. -/
  marksIntegers : Bool
  /-- Whether a number whose leading digit has this power of ten is written positionally. -/
  isPositional : Int → Bool

namespace Layout

/-- Positional at every magnitude, integers bare. -/
def plain : Layout where
  marksIntegers := false
  isPositional := fun _ => true

/-- A point in every positional number; the exponent form outside `10 ^ -4` to `10 ^ 16`. -/
def marked : Layout where
  marksIntegers := true
  isPositional := fun lead => -4 ≤ lead ∧ lead < 16

end Layout

/-- The digits of a coefficient without trailing zeros; zero keeps one digit. -/
def significantDigits (coefficient : Nat) : List Char :=
  match ((Nat.toDigits 10 coefficient).reverse.dropWhile (· = '0')).reverse with
  | [] => ['0']
  | digits => digits

/-- The text of an integer in decimal. -/
def integerText (n : Int) : List Char :=
  if n < 0 then '-' :: Nat.toDigits 10 n.natAbs else Nat.toDigits 10 n.natAbs

/-- The number `0.digits * 10 ^ point`, written without an exponent. -/
def positionalText (marksIntegers : Bool) (digits : List Char) (point : Int) : List Char :=
  if point ≤ 0 then '0' :: '.' :: (List.replicate (-point).toNat '0' ++ digits)
  else if digits.length ≤ point.toNat then
    digits ++ List.replicate (point.toNat - digits.length) '0' ++
      (if marksIntegers then ['.', '0'] else [])
  else digits.take point.toNat ++ '.' :: digits.drop point.toNat

/-- The number `0.digits * 10 ^ point`, written with one digit before the point. -/
def exponentText (digits : List Char) (point : Int) : List Char :=
  let rest := digits.drop 1
  digits.take 1 ++ (if rest = [] then [] else '.' :: rest) ++ 'e' :: integerText (point - 1)

/-- The text of a decimal under a layout. -/
def layOut (layout : Layout) (d : Decimal) : List Char :=
  let digits := significantDigits d.coefficient
  let point : Int := d.exponent + decimalLength d.coefficient
  let body :=
    if layout.isPositional (point - 1) then positionalText layout.marksIntegers digits point
    else exponentText digits point
  if d.negative then '-' :: body else body

end Decimal

namespace Datum

variable {F : Format}

/-- The text of a datum under a layout; a NaN shows neither sign nor payload. -/
def layOut (layout : Decimal.Layout) (x : Datum F) : List Char :=
  if x.isNaN then ['N', 'a', 'N']
  else if x.isInfinite then (if x.negative then ['-'] else []) ++ ['i', 'n', 'f']
  else x.toDecimal.layOut layout

/-- The plain text of a datum: `1`, `-0`, `0.00001`, `inf`. -/
def plainText (x : Datum F) : String := String.ofList (x.layOut .plain)

/-- The marked text of a datum: `1.0`, `-0.0`, `1e-5`, `inf`. -/
def markedText (x : Datum F) : String := String.ofList (x.layOut .marked)

/-- Four significant digits of a positive finite magnitude, ties to even, and the power of ten of
the first; a carry out of the top moves the power. -/
def fourDigits (F : Format) (units : Nat) : Nat × Int :=
  let magnitude := F.decimalMagnitude units
  let (num, den) := F.onGrid units (magnitude - 4)
  let rounded := roundQuotient num den
  if rounded = 10000 then (1000, magnitude) else (rounded, magnitude - 1)

/-- The exponent form with three decimals, rounded from the exact value: `1.500e-7`. -/
def briefText (x : Datum F) : String :=
  let sign := if x.negative then "-" else ""
  if x.isNaN then "NaN"
  else if x.isInfinite then sign ++ "inf"
  else if x.isZero then sign ++ "0.000e0"
  else
    let (digits, lead) := fourDigits F x.units
    let text := Nat.toDigits 10 digits
    sign ++ String.ofList (text.take 1 ++ '.' :: text.drop 1 ++ 'e' :: Decimal.integerText lead)

end Datum

end DualEval
