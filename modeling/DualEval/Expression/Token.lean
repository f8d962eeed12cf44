import DualEval.Text.Blank

/-!
# Tokens

A text is cut into parentheses and words.  A word is a maximal run of characters that are neither
white space nor parentheses, so a parenthesis needs no space around it and any amount of white
space separates as well as one blank.
-/

namespace DualEval

/-- A parenthesis or a word. -/
inductive Token where
  | opening
  | closing
  | word (letters : List Char)
deriving DecidableEq

namespace Token

def letters : Token → List Char
  | opening => ['(']
  | closing => [')']
  | word letters => letters

/-- The token as text. -/
def spelling (t : Token) : String := String.ofList t.letters

/-- Put a finished word, collected backwards, before the tokens that follow it. -/
def finish (collected : List Char) (following : List Token) : List Token :=
  if collected = [] then following else word collected.reverse :: following

/-- Cut a text into tokens, given the letters of the word under way, last letter first. -/
def scan (collected : List Char) : List Char → List Token
  | [] => finish collected []
  | c :: rest =>
    if c = '(' then finish collected (opening :: scan [] rest)
    else if c = ')' then finish collected (closing :: scan [] rest)
    else if Text.isBlank c then finish collected (scan [] rest)
    else scan (c :: collected) rest

/-- The tokens of a text, in order. -/
def ofText (text : String) : List Token := scan [] text.toList

end Token

end DualEval
