import DualEval.Decimal.Literal
import DualEval.Expression.Error

/-!
# Operands

An operand is a decimal literal in range.  A literal that rounds to an infinity is out of range,
and so is one that rounds to zero without being zero; a zero keeps the sign of its literal.
-/

namespace DualEval.Operand

/-- Whether a character marks the exponent part of a literal. -/
def isMark (c : Char) : Bool := c = 'e' || c = 'E'

def isNonzeroDigit (c : Char) : Bool := '1' ≤ c && c ≤ '9'

/-- Whether a digit other than zero stands before the exponent part of a word. -/
def hasNonzeroDigit (letters : List Char) : Bool :=
  (letters.takeWhile fun c => !isMark c).any isNonzeroDigit

/-- The operand that a word denotes, when it is a literal in range. -/
def read? (letters : List Char) : Option Binary32 := do
  let literal ← Decimal.read? letters
  let datum := literal.toDatum binary32
  if datum.isFinite ∧ (datum.isZero = false ∨ hasNonzeroDigit letters = false) then some datum
  else none

/-- Read a word as an operand; the error carries the word. -/
def read (letters : List Char) : Except ParseError Binary32 :=
  match read? letters with
  | some operand => .ok operand
  | none => .error (.invalidOperand (String.ofList letters))

end DualEval.Operand
