import DualEval.Decimal.Basic

/-!
# Decimal literals

The grammar is `[+-]? (digit+ ('.' digit*)? | '.' digit+) ([eE] [+-]? digit+)?` over ASCII digits.
A literal is read into the exact decimal it denotes; the range of any floating-point format plays
no part here.
-/

namespace DualEval.Decimal

/-- The number that a row of digits spells, most significant first. -/
def digitsValue (digits : List Char) : Nat :=
  digits.foldl (fun value digit => value * 10 + (digit.toNat - '0'.toNat)) 0

/-- Separate an optional sign; whether it was a minus comes first. -/
def splitSign : List Char → Bool × List Char
  | '+' :: rest => (false, rest)
  | '-' :: rest => (true, rest)
  | text => (false, text)

/-- The exponent part of a literal, zero when absent. -/
def readExponent? : List Char → Option Int
  | [] => some 0
  | mark :: rest =>
    if mark = 'e' ∨ mark = 'E' then
      let (negative, digits) := splitSign rest
      if digits ≠ [] ∧ digits.all Char.isDigit then
        some (if negative then -(digitsValue digits : Int) else digitsValue digits)
      else none
    else none

/-- Separate the digits after an optional decimal point. -/
def splitFraction : List Char → List Char × List Char
  | '.' :: rest => (rest.takeWhile Char.isDigit, rest.dropWhile Char.isDigit)
  | text => ([], text)

/-- Read a literal; the whole text must be one. -/
def read? (text : List Char) : Option Decimal :=
  let (negative, body) := splitSign text
  let whole := body.takeWhile Char.isDigit
  let (fraction, tail) := splitFraction (body.dropWhile Char.isDigit)
  if whole = [] ∧ fraction = [] then none
  else (readExponent? tail).map fun exponent =>
    { negative
      coefficient := digitsValue (whole ++ fraction)
      exponent := exponent - fraction.length }

end DualEval.Decimal
