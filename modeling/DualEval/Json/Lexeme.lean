import DualEval.Json.Number

/-!
# The lexemes of JSON

A JSON text is first cut into punctuation, names, strings and numbers; white space between them is
dropped.  Escapes in strings are undone and numbers are read here, so that a lexeme is a mark or a
value without parts.
-/

namespace DualEval.Json

/-- One punctuation mark, or one value without parts. -/
inductive Lexeme where
  | openObject
  | closeObject
  | openList
  | closeList
  | colon
  | comma
  | atom (value : Json)

namespace Lexeme

/-- The letters that a number may contain. -/
def isNumberLetter (c : Char) : Bool :=
  c.isDigit || c = '-' || c = '+' || c = '.' || c = 'e' || c = 'E'

/-- The value of four hexadecimal digits. -/
def hexWord? (digits : List Char) : Option Nat :=
  digits.foldl (fun value c => do
    let value ← value
    if c.isDigit then some (value * 16 + (c.toNat - 48))
    else if 'a' ≤ c ∧ c ≤ 'f' then some (value * 16 + (c.toNat - 87))
    else if 'A' ≤ c ∧ c ≤ 'F' then some (value * 16 + (c.toNat - 55))
    else none) (some 0)

/-- The character of a one-letter escape. -/
def escape? : Char → Option Char
  | '"' => some '"'
  | '\\' => some '\\'
  | '/' => some '/'
  | 'b' => some '\x08'
  | 'f' => some '\x0c'
  | 'n' => some '\n'
  | 'r' => some '\r'
  | 't' => some '\t'
  | _ => none

/-- The character that two halves of a surrogate pair stand for. -/
def ofSurrogates? (high low : Nat) : Option Char :=
  if 0xD800 ≤ high ∧ high < 0xDC00 ∧ 0xDC00 ≤ low ∧ low < 0xE000 then
    some (Char.ofNat (0x10000 + (high - 0xD800) * 1024 + (low - 0xDC00)))
  else none

/-- Read a string after its opening quote, given the characters read so far, last one first. -/
def readString (collected : List Char) : List Char → Option (String × List Char)
  | '"' :: rest => some (String.ofList collected.reverse, rest)
  | '\\' :: 'u' :: a :: b :: c :: d :: '\\' :: 'u' :: e :: f :: g :: h :: rest =>
    match hexWord? [a, b, c, d], hexWord? [e, f, g, h] with
    | some high, some low =>
      match ofSurrogates? high low with
      | some character => readString (character :: collected) rest
      | none =>
        if 0xD800 ≤ high ∧ high < 0xE000 then none
        else readString (Char.ofNat high :: collected) ('\\' :: 'u' :: e :: f :: g :: h :: rest)
    | _, _ => none
  | '\\' :: 'u' :: a :: b :: c :: d :: rest =>
    match hexWord? [a, b, c, d] with
    | some code =>
      if 0xD800 ≤ code ∧ code < 0xE000 then none
      else readString (Char.ofNat code :: collected) rest
    | none => none
  | '\\' :: c :: rest =>
    match escape? c with
    | some character => readString (character :: collected) rest
    | none => none
  | c :: rest => if c.toNat < 32 then none else readString (c :: collected) rest
  | [] => none

/-- The value of a bare name. -/
def nameOf? (letters : List Char) : Option Json :=
  if letters = ['n', 'u', 'l', 'l'] then some null
  else if letters = ['t', 'r', 'u', 'e'] then some (bool true)
  else if letters = ['f', 'a', 'l', 's', 'e'] then some (bool false)
  else none

/-- The punctuation mark that a character is. -/
def punctuation? : Char → Option Lexeme
  | '\x7b' => some openObject
  | '\x7d' => some closeObject
  | '[' => some openList
  | ']' => some closeList
  | ':' => some colon
  | ',' => some comma
  | _ => none

/-- Whether a character may stand between lexemes. -/
def isSpace (c : Char) : Bool := c = ' ' || c = '\t' || c = '\n' || c = '\r'

/-- Read the first lexeme of a text that starts with a character that is no space. -/
def readFirst (c : Char) (rest : List Char) : Option (Lexeme × List Char) :=
  match punctuation? c with
  | some mark => some (mark, rest)
  | none =>
    if c = '"' then
      (readString [] rest).map fun (s, rest) => (atom (text s), rest)
    else if isNumberLetter c then
      let letters := (c :: rest).takeWhile isNumberLetter
      (numberOf? letters).map fun value => (atom value, (c :: rest).dropWhile isNumberLetter)
    else
      let letters := (c :: rest).takeWhile Char.isLower
      (nameOf? letters).map fun value => (atom value, (c :: rest).dropWhile Char.isLower)

/-- Cut a text into lexemes.  Each step drops a character, so a budget of one step for each
character and one for the end suffices. -/
def scan : Nat → List Char → Option (List Lexeme)
  | 0, _ => none
  | _, [] => some []
  | budget + 1, c :: rest =>
    if isSpace c then scan budget rest
    else do
      let (lexeme, rest) ← readFirst c rest
      let following ← scan budget rest
      return lexeme :: following

def ofText? (text : String) : Option (List Lexeme) := scan (text.length + 1) text.toList

end Lexeme

end DualEval.Json
