import DualEval.Json.Lexeme

/-!
# Reading JSON

A value is read from its lexemes by descent.  Every call drops a lexeme or hands the same lexemes
to a reader of another kind, so a budget of twice their number suffices.  Of several members with
one name the last counts.
-/

namespace DualEval.Json

/-- The members that no later member of the same name replaces. -/
def lastOfEach : List (String × Json) → List (String × Json)
  | [] => []
  | (name, value) :: rest =>
    if rest.any fun member => member.1 = name then lastOfEach rest
    else (name, value) :: lastOfEach rest

mutual

/-- Read one value from the front of the lexemes. -/
def readValue : Nat → List Lexeme → Option (Json × List Lexeme)
  | 0, _ => none
  | _, .atom value :: rest => some (value, rest)
  | _, .openList :: .closeList :: rest => some (list [], rest)
  | budget + 1, .openList :: rest =>
    (readItems budget rest).map fun (items, rest) => (list items, rest)
  | _, .openObject :: .closeObject :: rest => some (object [], rest)
  | budget + 1, .openObject :: rest =>
    (readMembers budget rest).map fun (members, rest) => (object (lastOfEach members), rest)
  | _, _ => none

/-- Read one or more values up to the end of the list. -/
def readItems : Nat → List Lexeme → Option (List Json × List Lexeme)
  | 0, _ => none
  | budget + 1, lexemes =>
    match readValue budget lexemes with
    | some (item, .comma :: rest) =>
      (readItems budget rest).map fun (items, rest) => (item :: items, rest)
    | some (item, .closeList :: rest) => some ([item], rest)
    | _ => none

/-- Read one or more members up to the end of the object. -/
def readMembers : Nat → List Lexeme → Option (List (String × Json) × List Lexeme)
  | 0, _ => none
  | budget + 1, .atom (text name) :: .colon :: lexemes =>
    match readValue budget lexemes with
    | some (value, .comma :: rest) =>
      (readMembers budget rest).map fun (members, rest) => ((name, value) :: members, rest)
    | some (value, .closeObject :: rest) => some ([(name, value)], rest)
    | _ => none
  | _, _ => none

end

/-- Read a JSON value; the whole text must be one. -/
def parse? (text : String) : Option Json :=
  (Lexeme.ofText? text).bind fun lexemes =>
    match readValue (2 * lexemes.length + 1) lexemes with
    | some (value, []) => some value
    | _ => none

end DualEval.Json
