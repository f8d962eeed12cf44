import DualEval.Decimal.Literal

/-!
# Reading a number from an argument

Wider than the literals of expressions: NaN and the infinities may be spelled out, in any letter
case, and a literal out of range rounds to an infinity or to a zero instead of being refused.
-/

namespace DualEval.Decimal

/-- Why a text is not a number. -/
inductive NumberError where
  | empty
  | invalid
deriving DecidableEq

namespace NumberError

def message : NumberError → String
  | empty => "cannot parse float from empty string"
  | invalid => "invalid float literal"

end NumberError

/-- The spelled-out value that a text names, letter case aside. -/
def namedValue? (F : Format) (negative : Bool) (text : List Char) : Option (Datum F) :=
  let name := text.map Char.toLower
  if name = ['i', 'n', 'f'] ∨ name = ['i', 'n', 'f', 'i', 'n', 'i', 't', 'y'] then
    some (Datum.infinity F negative)
  else if name = ['n', 'a', 'n'] then some (Datum.quietNaN F)
  else none

/-- Read a literal or a spelled-out value; the whole text must be one. -/
def readNumber (F : Format) (text : List Char) : Except NumberError (Datum F) :=
  if text = [] then .error .empty
  else
    let (negative, body) := splitSign text
    match namedValue? F negative body, read? text with
    | some value, _ => .ok value
    | none, some literal => .ok (literal.toDatum F)
    | none, none => .error .invalid

end DualEval.Decimal
