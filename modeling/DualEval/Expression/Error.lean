/-!
# Why a text is not an expression

Each constructor is one cause; `message` holds the wording.  Every cause ends the reading of one
text only.
-/

namespace DualEval

/-- Why a text, or a list of parts, is not an expression. -/
inductive ParseError where
  /-- The text is not one balanced form in parentheses. -/
  | malformed
  /-- The first word is no operator. -/
  | unknownOperator (symbol : String)
  /-- A word in an operand's place is no literal in range. -/
  | invalidOperand (word : String)
  /-- The form does not hold three words. -/
  | arityMismatch (found : Nat)
  /-- There is a form inside the form. -/
  | unsupportedNesting
deriving DecidableEq

namespace ParseError

def message : ParseError → String
  | malformed => "malformed expression: expected a single `(op a b)` form"
  | unknownOperator symbol => "unknown operator `" ++ symbol ++ "`"
  | invalidOperand word => "invalid operand `" ++ word ++ "`"
  | arityMismatch found =>
    "expected an operator and 2 operands, found " ++ toString found ++ " token(s)"
  | unsupportedNesting => "nested expressions are not supported"

end ParseError

end DualEval
