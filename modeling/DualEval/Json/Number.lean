import DualEval.Binary.Arithmetic
import DualEval.Decimal.Literal
import DualEval.Json.Basic
import DualEval.Text.Integer

/-!
# The numbers of JSON

A number that is not kept as an exact integer is read in 64-bit floating-point arithmetic.  Its
leading digits, as many as one 64-bit word holds, make an integer; this is rounded once, and then
multiplied or divided by the power of ten that puts the digits in their place.  With few digits and
a small exponent both steps are exact or rounded once, and the answer is the nearest datum; with
more, it may lie a few last places beside it.
-/

namespace DualEval.Json

/-- The largest power of ten, as an exponent, that the 64-bit format reaches. -/
def greatestTen : Nat := 308

/-- The datum nearest to a power of ten. -/
def powerOfTen (exponent : Nat) : Binary64 := Decimal.toDatum binary64 ⟨false, 1, exponent⟩

/-- Read digits after a value already read for as long as the value fits a word; the digits left
over are answered with it. -/
def fitDigits (value : Nat) : List Char → Nat × List Char
  | [] => (value, [])
  | c :: rest =>
    let next := value * 10 + (c.toNat - '0'.toNat)
    if next < Text.wordLimit then fitDigits next rest else (value, c :: rest)

/-- Divide by the greatest power of ten so many times; a zero ends it. -/
def divideByGreatest : Nat → Binary64 → Binary64
  | 0, x => x
  | times + 1, x =>
    if x.isZero then x else divideByGreatest times (x.div (powerOfTen greatestTen))

/-- Multiply by a power of ten; past the largest finite datum there is no answer. -/
def multiplyByTens? (x : Binary64) (exponent : Nat) : Option Binary64 :=
  if x.isZero then some x
  else if exponent ≤ greatestTen then
    let product := x.mul (powerOfTen exponent)
    if product.isFinite then some product else none
  else none

/-- Divide by a power of ten; one past the format's reach is taken in steps, so that the answer
sinks to zero and never fails. -/
def divideByTens (x : Binary64) (exponent : Nat) : Binary64 :=
  let times := (exponent - 1) / greatestTen
  (divideByGreatest times x).div (powerOfTen (exponent - greatestTen * times))

/-- A whole number put in its place by a power of ten. -/
def scaled? (significand : Nat) (exponent : Int) : Option Binary64 :=
  let x := Datum.ofInt binary64 significand
  if 0 ≤ exponent then multiplyByTens? x exponent.toNat
  else some (divideByTens x (-exponent).toNat)

/-- The magnitude of a number with these digits before and after the point.  A digit that no longer
fits is dropped with all that follow it in its part; before the point it still counts as a place. -/
def magnitude? (whole fraction : List Char) (exponent : Int) : Option Binary64 :=
  let (significand, wholeRest) := fitDigits 0 whole
  let (significand, fractionRest) := fitDigits significand fraction
  let places : Int := wholeRest.length - (fraction.length - fractionRest.length : Nat)
  scaled? significand (places + exponent)

/-- The value of a number's letters after the whole part: a point is followed by a digit, and the
exponent part is that of decimal literals. -/
def floatOf? (negative : Bool) (whole tail : List Char) : Option Binary64 :=
  let (fraction, rest) := Decimal.splitFraction tail
  if tail.head? = some '.' ∧ fraction = [] then none
  else do
    let exponent ← Decimal.readExponent? rest
    let magnitude ← magnitude? whole fraction exponent
    return if negative then magnitude.neg else magnitude

/-- The integers that stay exact: those of a signed or an unsigned 64-bit word. -/
def isExact (n : Int) : Bool := Int64.minValue.toInt ≤ n && n < UInt64.size

/-- The value of a number's letters.  A negative zero is no exact integer, since it keeps its
sign. -/
def numberOf? (letters : List Char) : Option Json :=
  let negative := letters.head? = some '-'
  let body := if negative then letters.drop 1 else letters
  let whole := body.takeWhile Char.isDigit
  let tail := body.dropWhile Char.isDigit
  let value : Int := if negative then -Decimal.digitsValue whole else Decimal.digitsValue whole
  if whole = [] ∨ (whole.head? = some '0' ∧ whole ≠ ['0']) then none
  else if tail = [] ∧ isExact value ∧ ¬ (negative ∧ value = 0) then some (integer value)
  else (floatOf? negative whole tail).map float

end DualEval.Json
