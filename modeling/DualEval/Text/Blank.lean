/-!
# White space

The characters with the Unicode property `White_Space`, which is wider than the six blanks of
ASCII: it holds the next-line control, the no-break spaces and the typographic spaces, and leaves
out the zero-width ones.
-/

namespace DualEval.Text

/-- The code point ranges of white space, first and last included, in order. -/
def blankRanges : List (Nat × Nat) :=
  [(0x0009, 0x000D), (0x0020, 0x0020), (0x0085, 0x0085), (0x00A0, 0x00A0), (0x1680, 0x1680),
    (0x2000, 0x200A), (0x2028, 0x2029), (0x202F, 0x202F), (0x205F, 0x205F), (0x3000, 0x3000)]

/-- Whether a character is white space. -/
def isBlank (c : Char) : Bool :=
  blankRanges.any fun (first, last) => first ≤ c.toNat && c.toNat ≤ last

end DualEval.Text
