import DualEval.Decimal.Layout
import DualEval.Expression.Basic

/-!
# Writing expressions

An expression is written as one form, either with plain numbers, for display, or with marked ones,
for texts that are read again.  Both read back to the same operands bit for bit when these are
finite; the spare datum is not written.
-/

namespace DualEval.Expression

/-- The form with its numbers laid out as given. -/
def layOut (layout : Decimal.Layout) (e : Expression) : String :=
  String.ofList ('(' :: e.operator.symbol.toList ++ ' ' :: e.left.layOut layout ++
    ' ' :: e.right.layOut layout ++ [')'])

/-- The text for display, numbers plain: `(+ 1 -0.5)`. -/
def display (e : Expression) : String := e.layOut .plain

/-- The text in the input form, numbers marked: `(+ 1.0 -0.5)`. -/
def inputText (e : Expression) : String := e.layOut .marked

end DualEval.Expression
