import DualEval.Operator

/-!
# Expressions

One operator applied to two 32-bit operands, with a spare datum that travels along and takes no
part in the value.
-/

namespace DualEval

/-- An operator, its two operands and the spare datum. -/
structure Expression where
  operator : Operator
  left : Binary32
  right : Binary32
  reserved : Binary32 := Binary32.zero
deriving DecidableEq, Inhabited

namespace Expression

/-- The value that the host computes: one rounded operation.  Division by zero is no error. -/
def value (e : Expression) : Binary32 := e.operator.apply e.left e.right

/-- The results of all four operators on two operands, in the order of the tags. -/
def lanes (left right : Binary32) : List Binary32 :=
  Operator.all.map fun operator => operator.apply left right

/-- Numerical equality, field by field. -/
def equals (x y : Expression) : Bool :=
  x.operator = y.operator && x.reserved.equals y.reserved && x.left.equals y.left &&
    x.right.equals y.right

end Expression

end DualEval
