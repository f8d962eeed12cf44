/-!
# Reading an unsigned integer

A text is an optional plus and one or more digits of a radix, and its value stays below a bound.
The text is judged from left to right: the first character that is no digit, or the first digit
that carries the value past the bound, decides the error.
-/

namespace DualEval.Text

/-- Why a text is not an integer in range. -/
inductive IntegerError where
  | empty
  | invalidDigit
  | tooLarge
deriving DecidableEq

namespace IntegerError

def message : IntegerError → String
  | empty => "cannot parse integer from empty string"
  | invalidDigit => "invalid digit found in string"
  | tooLarge => "number too large to fit in target type"

end IntegerError

/-- The number of integers of sixty-four bits. -/
def wordLimit : Nat := UInt64.size

/-- The value of a digit in either letter case, when the radix has it. -/
def digitValue? (radix : Nat) (c : Char) : Option Nat :=
  let value :=
    if c.isDigit then c.toNat - '0'.toNat
    else if c.isLower then c.toNat - 'a'.toNat + 10
    else if c.isUpper then c.toNat - 'A'.toNat + 10
    else radix
  if value < radix then some value else none

/-- Read digits after a value already read, staying below a bound. -/
def readDigits (radix bound value : Nat) : List Char → Except IntegerError Nat
  | [] => .ok value
  | c :: rest =>
    match digitValue? radix c with
    | none => .error .invalidDigit
    | some digit =>
      let next := value * radix + digit
      if next < bound then readDigits radix bound next rest else .error .tooLarge

/-- Drop one leading plus. -/
def dropPlus : List Char → List Char
  | '+' :: rest => rest
  | text => text

/-- Read an unsigned integer below a bound. -/
def readInteger (radix bound : Nat) (text : List Char) : Except IntegerError Nat :=
  if text = [] then .error .empty
  else
    match dropPlus text with
    | [] => .error .invalidDigit
    | digits => readDigits radix bound 0 digits

end DualEval.Text
