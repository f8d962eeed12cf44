import DualEval.Expression.Basic
import DualEval.Expression.Operand
import DualEval.Expression.Token

/-!
# Reading expressions

An expression is one form `(operator operand operand)`.  The faults of a text are reported by a
fixed precedence: parentheses that do not balance into one form, then a form inside the form, then
the number of words, then the operator, then the operands from left to right.
-/

namespace DualEval

namespace Token

/-- What stands between the outer parentheses, given the tokens after the opening one and the
number of inner forms still open.  There is an answer only if the outer form is closed by the last
token and by no earlier one. -/
def formBody? : Nat → List Token → Option (List Token)
  | _, [] => none
  | 0, closing :: rest => if rest = [] then some [] else none
  | depth + 1, closing :: rest => (formBody? depth rest).map (closing :: ·)
  | depth, opening :: rest => (formBody? (depth + 1) rest).map (opening :: ·)
  | depth, word letters :: rest => (formBody? depth rest).map (word letters :: ·)

/-- What stands between the parentheses of a single balanced form. -/
def form? : List Token → Option (List Token)
  | opening :: rest => formBody? 0 rest
  | _ => none

end Token

namespace Expression

/-- Read the words of a form. -/
def ofWords : List (List Char) → Except ParseError Expression
  | [symbol, left, right] =>
    match Operator.ofSymbol? (String.ofList symbol) with
    | none => .error (.unknownOperator (String.ofList symbol))
    | some operator => do
      let left ← Operand.read left
      let right ← Operand.read right
      return { operator, left, right }
  | words => .error (.arityMismatch words.length)

/-- Read the tokens of a text. -/
def ofTokens (tokens : List Token) : Except ParseError Expression :=
  match Token.form? tokens with
  | none => .error .malformed
  | some body =>
    if Token.opening ∈ body then .error .unsupportedNesting
    else ofWords (body.map Token.letters)

/-- Read an expression; the whole text must be one. -/
def parse (text : String) : Except ParseError Expression := ofTokens (Token.ofText text)

/-- Put an expression together from a symbol and a list of operands; every fault is the same. -/
def ofParts (symbol : String) (operands : List Binary32) : Except ParseError Expression :=
  match Operator.ofSymbol? symbol, operands with
  | some operator, [left, right] => .ok { operator, left, right }
  | _, _ => .error .malformed

end Expression

end DualEval
