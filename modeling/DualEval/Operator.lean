import DualEval.Binary.Arithmetic

/-!
# Operators

The four binary operators, their spelling in expressions, the numeric tag that names each of them
in a record, and the operation each stands for.
-/

namespace DualEval

/-- A binary operator. -/
inductive Operator where
  | add
  | subtract
  | multiply
  | divide
deriving DecidableEq, Inhabited

namespace Operator

/-- The operators in the order of their tags. -/
def all : List Operator := [add, subtract, multiply, divide]

theorem mem_all (operator : Operator) : operator ∈ all := by
  cases operator <;> simp [all]

/-- The spelling in expressions. -/
def symbol : Operator → String
  | add => "+"
  | subtract => "-"
  | multiply => "*"
  | divide => "/"

def ofSymbol? : String → Option Operator
  | "+" => some add
  | "-" => some subtract
  | "*" => some multiply
  | "/" => some divide
  | _ => none

/-- The number that names the operator in a record. -/
def tag : Operator → Nat
  | add => 0
  | subtract => 1
  | multiply => 2
  | divide => 3

/-- The tag as it is carried in a record. -/
def tagDatum (operator : Operator) : Binary32 := Datum.ofInt binary32 operator.tag

/-- The operator that a number names. -/
def ofNumber? : Int → Option Operator
  | 0 => some add
  | 1 => some subtract
  | 2 => some multiply
  | 3 => some divide
  | _ => none

/-- The operator that a tag carried as a float names: the float has no fraction, and names one as an
integer. -/
def ofTag? (tag : Binary32) : Option Operator :=
  if tag.fraction.equals Binary32.zero then ofNumber? tag.toInt64 else none

/-- The operation, rounded to the 32-bit format. -/
def apply : Operator → Binary32 → Binary32 → Binary32
  | add => Datum.add
  | subtract => Datum.sub
  | multiply => Datum.mul
  | divide => Datum.div

/-- Spelling is injective and `ofSymbol?` inverts it. -/
theorem ofSymbol?_symbol (operator : Operator) : ofSymbol? operator.symbol = some operator := by
  cases operator <;> rfl

/-- A tag carried as a float names the operator it was made from. -/
theorem ofTag?_tagDatum (operator : Operator) : ofTag? operator.tagDatum = some operator := by
  cases operator <;> decide

end Operator

end DualEval
