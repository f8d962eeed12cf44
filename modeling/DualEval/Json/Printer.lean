import DualEval.Decimal.Layout
import DualEval.Json.Basic

/-!
# Writing JSON

Values are written compactly, members in order.  Quotes, backslashes and control characters are
escaped and all else stands as it is.  A datum that no JSON number can spell is written as null.
-/

namespace DualEval.Json

/-- The last two hexadecimal digits of a control character's escape. -/
def controlDigits (c : Char) : List Char :=
  [Nat.digitChar (c.toNat / 16), Nat.digitChar (c.toNat % 16)]

/-- A character as it stands in a string. -/
def escaped (c : Char) : List Char :=
  if c = '"' then ['\\', '"']
  else if c = '\\' then ['\\', '\\']
  else if c = '\n' then ['\\', 'n']
  else if c = '\r' then ['\\', 'r']
  else if c = '\t' then ['\\', 't']
  else if c = '\x08' then ['\\', 'b']
  else if c = '\x0c' then ['\\', 'f']
  else if c.toNat < 32 then '\\' :: 'u' :: '0' :: '0' :: controlDigits c
  else [c]

/-- A text in quotes. -/
def quoted (s : String) : List Char := '"' :: s.toList.flatMap escaped ++ ['"']

mutual

/-- The characters of a value. -/
def letters : Json → List Char
  | null => ['n', 'u', 'l', 'l']
  | bool true => ['t', 'r', 'u', 'e']
  | bool false => ['f', 'a', 'l', 's', 'e']
  | integer n => Decimal.integerText n
  | float x => if x.isFinite then x.layOut .marked else ['n', 'u', 'l', 'l']
  | text s => quoted s
  | list items => '[' :: itemLetters items
  | object members => '\x7b' :: memberLetters members

/-- The characters of the items left in a list, with its end. -/
def itemLetters : List Json → List Char
  | [] => [']']
  | [item] => letters item ++ [']']
  | item :: rest => letters item ++ ',' :: itemLetters rest

/-- The characters of the members left in an object, with its end. -/
def memberLetters : List (String × Json) → List Char
  | [] => ['\x7d']
  | [(name, value)] => quoted name ++ ':' :: letters value ++ ['\x7d']
  | (name, value) :: rest => quoted name ++ ':' :: letters value ++ ',' :: memberLetters rest

end

/-- The compact text of a value. -/
def render (value : Json) : String := String.ofList (letters value)

end DualEval.Json
