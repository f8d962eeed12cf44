import DualEval.Cases.Sample
import DualEval.Expression.Printer

/-!
# Test cases

Two sets of expressions, given as texts so that reading them is tested along.  The random set cycles
through the operators and draws two operands for each case; a case depends on the seed and on its
own number only, so a longer set extends a shorter one.  The stress set holds zero divisors, signed
zeros, overflow, tiny numbers and a loss of precision.
-/

namespace DualEval

/-- A set of cases under a label. -/
structure CaseSet where
  label : String
  cases : List String
deriving DecidableEq

namespace Cases

/-- The case of a given number. -/
def random (seed : UInt64) (number : Nat) : Expression where
  operator := Operator.all.getD (number % 4) .add
  left := Sample.ofWord (KeyStream.word seed (2 * number))
  right := Sample.ofWord (KeyStream.word seed (2 * number + 1))

/-- The first cases of a seed.  Room for them is taken for granted, also for `2 ^ 59` cases and more,
which no memory holds. -/
def generate (count : Nat) (seed : UInt64) : List Expression :=
  (List.range count).map (random seed)

/-- An operand of a stress case. -/
def number (negative : Bool) (coefficient : Nat) (exponent : Int) : Binary32 :=
  Decimal.toDatum binary32 ⟨negative, coefficient, exponent⟩

/-- The stress cases. -/
def stress : List Expression := [
  { operator := .divide, left := number false 1 0, right := number false 0 0 },
  { operator := .divide, left := number true 1 0, right := number false 0 0 },
  { operator := .divide, left := number false 1 0, right := number true 0 0 },
  { operator := .divide, left := number false 0 0, right := number false 0 0 },
  { operator := .add, left := number true 0 0, right := number false 0 0 },
  { operator := .subtract, left := number false 0 0, right := number false 0 0 },
  { operator := .multiply, left := number false 1 20, right := number false 1 20 },
  { operator := .multiply, left := number true 3 38, right := number false 10 0 },
  { operator := .add, left := number false 1 (-30), right := number false 2 (-30) },
  { operator := .divide, left := number false 7 0, right := number false 1 (-3) },
  { operator := .subtract, left := number false 16777216 0, right := number false 1 0 }]

/-- A seed as it is shown: upper-case hexadecimal digits after `0x`. -/
def seedText (seed : UInt64) : String :=
  String.ofList ('0' :: 'x' :: (Nat.toDigits 16 seed.toNat).map Char.toUpper)

/-- The random set and the stress set. -/
def sets (count : Nat) (seed : UInt64) : List CaseSet := [
  { label := "random_" ++ seedText seed
    cases := (generate count seed).map Expression.inputText },
  { label := "stress_edges", cases := stress.map Expression.inputText }]

end Cases

end DualEval
