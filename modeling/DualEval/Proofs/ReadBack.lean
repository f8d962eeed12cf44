import DualEval.Expression.Printer
import DualEval.Proofs.DecimalText
import DualEval.Proofs.ParsePrecedence

/-!
# Printed expressions read back

Under every layout the text of a finite operand is one word, and a literal in range that denotes the
operand itself.  The text of any other operand is one word too, but no literal, so the first of these
is the one that is refused.
-/

namespace DualEval

namespace Token

variable {text rest : List Char} {tokens : List Token}

/-- A text that is a single word. -/
structure IsWord (text : List Char) : Prop where
  nonempty : text ≠ []
  spelled : ∀ c ∈ text, isLetter c = true

theorem isLetter_of_isDigit {c : Char} (digit : c.isDigit = true) : isLetter c = true := by
  have range := Decimal.toNat_of_isDigit digit
  have left : c ≠ '(' := by rintro rfl; revert digit; decide
  have right : c ≠ ')' := by rintro rfl; revert digit; decide
  have visible : Text.isBlank c = false := by
    simp only [Text.isBlank, Text.blankRanges, List.any_cons, List.any_nil, Bool.or_false,
      Bool.or_eq_false_iff, Bool.and_eq_false_iff, decide_eq_false_iff_not]
    omega
  simp [isLetter, left, right, visible]

/-- A word ends at a blank. -/
theorem LaysOut.word_blank (word : IsWord text) (layout : LaysOut rest tokens) :
    LaysOut (text ++ ' ' :: rest) (.word text :: tokens) :=
  .word word.nonempty word.spelled (by rintro _ ⟨⟩; decide) (.blank (by decide) layout)

/-- A word ends at a closing parenthesis. -/
theorem LaysOut.word_closing (word : IsWord text) (layout : LaysOut rest tokens) :
    LaysOut (text ++ ')' :: rest) (.word text :: .closing :: tokens) :=
  .word word.nonempty word.spelled (by rintro _ ⟨⟩; decide) (.closing layout)

end Token

namespace Decimal

open Token

variable {text whole fraction : List Char} {negative : Bool} {d : Decimal}

theorem isLetter_of_digits (row : Digits text) : ∀ c ∈ text, isLetter c = true := fun c member =>
  isLetter_of_isDigit (row c member)

theorem isLetter_of_sign (sign : Sign text negative) : ∀ c ∈ text, isLetter c = true := by
  cases sign <;> exact List.all_eq_true.mp rfl

theorem isLetter_of_exponent {power : Int} (exponent : Exponent text power) :
    ∀ c ∈ text, isLetter c = true := by
  cases exponent with
  | none => simp
  | marked mark sign row _ =>
    intro c member
    rcases List.mem_cons.mp member with rfl | member
    · rcases mark with rfl | rfl <;> decide
    · exact (List.mem_append.mp member).elim (isLetter_of_sign sign c) (isLetter_of_digits row c)

theorem isWord_of_mantissa (mantissa : Mantissa text whole fraction) : IsWord text := by
  cases mantissa with
  | whole row nonempty => exact ⟨nonempty, isLetter_of_digits row⟩
  | point before after _ =>
    refine ⟨by simp, fun c member => ?_⟩
    rcases List.mem_append.mp member with member | member
    · exact isLetter_of_digits before c member
    · rcases List.mem_cons.mp member with rfl | member
      · decide
      · exact isLetter_of_digits after c member

/-- A literal is a single word. -/
theorem isWord_of_spells (spells : Spells text d) : IsWord text := by
  obtain ⟨sign, body, rfl, signed, mantissa, whole, fraction, tail, power, rfl, digits, exponent, _,
    _⟩ := spells
  have middle := isWord_of_mantissa digits
  refine ⟨by simp [middle.nonempty], fun c member => ?_⟩
  rcases List.mem_append.mp member with member | member
  · exact isLetter_of_sign signed c member
  · exact (List.mem_append.mp member).elim (middle.spelled c) (isLetter_of_exponent exponent c)

theorem coefficient_eq_zero_of_magnitude {d' : Decimal} (same : d'.magnitude = d.magnitude)
    (nothing : d.coefficient = 0) : d'.coefficient = 0 := by
  have zero : d'.magnitude = 0 := by rw [same, magnitude, nothing, Nat.cast_zero, zero_mul]
  have power : (10 : ℚ) ^ d'.exponent ≠ 0 := zpow_ne_zero _ (by norm_num)
  rw [magnitude] at zero
  exact_mod_cast (mul_eq_zero.mp zero).resolve_right power

end Decimal

namespace Operand

variable {x : Binary32}

/-- The word that stands for an operand that is not finite. -/
def nonFiniteWord (x : Binary32) : String :=
  if x.isNaN then "NaN" else if x.negative then "-inf" else "inf"

/-- Under every layout the text of a finite operand denotes the operand. -/
theorem denotes_layOut (layout : Decimal.Layout) (finite : x.isFinite = true) :
    Denotes (x.layOut layout) x := by
  have shape : x.layOut layout = x.toDecimal.layOut layout := by
    simp [Datum.layOut, Datum.isNaN_of_isFinite finite, Datum.isInfinite_of_isFinite finite]
  obtain ⟨d, spells, sign, same⟩ := Decimal.spells_layOut layout x.toDecimal
  refine ⟨d, shape ▸ spells, ?_, finite, fun nothing => ?_⟩
  · rw [Decimal.toDatum_congr binary32 sign same, Datum.toDatum_toDecimal finite]
  · exact Decimal.coefficient_eq_zero_of_magnitude same
      (Datum.coefficient_toDecimal_of_isZero nothing)

theorem layOut_of_not_isFinite (layout : Decimal.Layout) (other : x.isFinite = false) :
    x.layOut layout = (nonFiniteWord x).toList := by
  rw [Datum.layOut, nonFiniteWord]
  rcases x.classes with ⟨nan, _, _⟩ | ⟨nan, infinite, _⟩ | ⟨_, _, finite⟩
  · simp [nan]
  · cases sign : x.negative <;> simp [nan, infinite]
  · simp [finite] at other

theorem nonFiniteWord_cases (x : Binary32) :
    nonFiniteWord x = "NaN" ∨ nonFiniteWord x = "-inf" ∨ nonFiniteWord x = "inf" := by
  rw [nonFiniteWord]
  split
  · exact .inl rfl
  · split
    · exact .inr (.inl rfl)
    · exact .inr (.inr rfl)

theorem not_denotes_nonFiniteWord (x y : Binary32) : ¬ Denotes (nonFiniteWord x).toList y := by
  have refused : read? (nonFiniteWord x).toList = none := by
    rcases nonFiniteWord_cases x with word | word | word <;> rw [word] <;> rfl
  rw [← read?_eq_some_iff, refused]
  rintro ⟨⟩

/-- The text of an operand is a single word. -/
theorem isWord_layOut (layout : Decimal.Layout) (x : Binary32) : Token.IsWord (x.layOut layout) := by
  cases finite : x.isFinite with
  | true =>
    obtain ⟨d, spells, _⟩ := denotes_layOut layout finite
    exact Decimal.isWord_of_spells spells
  | false =>
    rw [layOut_of_not_isFinite layout finite]
    rcases nonFiniteWord_cases x with word | word | word <;> rw [word] <;>
      exact ⟨by simp, List.all_eq_true.mp rfl⟩

/-- Reading the text of an operand answers the operand if it is finite, and refuses its word
otherwise. -/
theorem read_layOut (layout : Decimal.Layout) (x : Binary32) :
    read (x.layOut layout) =
      if x.isFinite then .ok x else .error (.invalidOperand (nonFiniteWord x)) := by
  cases finite : x.isFinite with
  | true => exact Expression.read_of_denotes (denotes_layOut layout finite)
  | false =>
    rw [layOut_of_not_isFinite layout finite,
      Expression.read_of_not_denotes (not_denotes_nonFiniteWord x), String.ofList_toList]
    rfl

end Operand

namespace Expression

open Token

/-- What the text of an expression reads back as: the expression without its spare datum, unless an
operand is not finite; the leftmost such operand is refused. -/
def readBack (e : Expression) : Except ParseError Expression :=
  match [e.left, e.right].find? fun operand => !operand.isFinite with
  | none => .ok { e with reserved := Binary32.zero }
  | some operand => .error (.invalidOperand (Operand.nonFiniteWord operand))

theorem ofText_layOut (layout : Decimal.Layout) (e : Expression) :
    ofText (e.layOut layout) = [.opening, .word e.operator.symbol.toList,
      .word (e.left.layOut layout), .word (e.right.layOut layout), .closing] := by
  have symbol : IsWord e.operator.symbol.toList := by
    cases e.operator <;> exact ⟨by simp [Operator.symbol], List.all_eq_true.mp rfl⟩
  have laid : LaysOut (e.layOut layout).toList [.opening, .word e.operator.symbol.toList,
      .word (e.left.layOut layout), .word (e.right.layOut layout), .closing] := by
    rw [Expression.layOut, String.toList_ofList]
    simp only [List.append_assoc, List.cons_append]
    exact .opening (.word_blank symbol (.word_blank (Operand.isWord_layOut layout e.left)
      (.word_closing (Operand.isWord_layOut layout e.right) .nil)))
  exact (laysOut_iff.mp laid).symm

theorem parse_layOut (layout : Decimal.Layout) (e : Expression) :
    parse (e.layOut layout) = e.readBack := by
  have known : Operator.Spells (Token.word e.operator.symbol.toList).spelling e.operator := by
    rw [Token.spelling, Token.letters, String.ofList_toList]
    exact spells_symbol e.operator
  have words : parse (e.layOut layout) = (do
      let left ← Operand.read (e.left.layOut layout)
      let right ← Operand.read (e.right.layOut layout)
      return { operator := e.operator, left, right }) := by
    rw [parse, ofText_layOut, ← ofWords_of_spells _ _ known]
    rfl
  rw [words, Operand.read_layOut, Operand.read_layOut, readBack]
  cases first : e.left.isFinite with
  | false => simp [first, List.find?]; rfl
  | true =>
    cases second : e.right.isFinite with
    | false => simp [first, second, List.find?]; rfl
    | true => simp [first, second, List.find?]; rfl

/-- **Printing and reading back is the identity on finite expressions.** Both texts of an expression
read back as the expression itself, operands bit for bit and the spare datum a positive zero; if an
operand is not finite, the word of the leftmost such operand is refused. -/
theorem parse_printed (e : Expression) :
    parse e.inputText = e.readBack ∧ parse e.display = e.readBack :=
  ⟨parse_layOut .marked e, parse_layOut .plain e⟩

end Expression

end DualEval
