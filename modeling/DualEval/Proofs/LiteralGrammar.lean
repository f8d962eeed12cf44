import DualEval.Expression.Operand
import Mathlib.Logic.Basic

/-!
# The grammar of decimal literals

A literal is an optional sign, digits with an optional point among them, and an optional exponent.
The grammar is stated as it is written, by the parts of a text, and the reader accepts exactly the
texts that have such parts and answers the decimal that the parts spell.  In the same way an operand
is read from exactly the literals in range.  Whether a literal that vanishes is a zero is looked up in
its letters, and is a property of its coefficient all the same.
-/

namespace DualEval.Decimal

theorem toNat_of_isDigit {c : Char} (digit : c.isDigit = true) : 48 ≤ c.toNat ∧ c.toNat ≤ 57 := by
  rwa [Char.isDigit, Bool.and_eq_true, decide_eq_true_eq, decide_eq_true_eq, ge_iff_le,
    UInt32.le_iff_toNat_le, UInt32.le_iff_toNat_le] at digit

/-- A row of digits. -/
def Digits (text : List Char) : Prop := ∀ c ∈ text, c.isDigit = true

/-- The sign of a literal, and whether it is a minus. -/
inductive Sign : List Char → Bool → Prop where
  | none : Sign [] false
  | plus : Sign ['+'] false
  | minus : Sign ['-'] true

/-- The mantissa of a literal, with its digits before and after the point. -/
inductive Mantissa : List Char → List Char → List Char → Prop where
  | whole {whole} : Digits whole → whole ≠ [] → Mantissa whole whole []
  | point {whole fraction} : Digits whole → Digits fraction → whole ≠ [] ∨ fraction ≠ [] →
      Mantissa (whole ++ '.' :: fraction) whole fraction

/-- The exponent part of a literal, and the power of ten that it denotes. -/
inductive Exponent : List Char → Int → Prop where
  | none : Exponent [] 0
  | marked {mark sign negative digits} : mark = 'e' ∨ mark = 'E' → Sign sign negative →
      Digits digits → digits ≠ [] →
      Exponent (mark :: (sign ++ digits))
        (if negative then -(digitsValue digits : Int) else digitsValue digits)

/-- A text spells a coefficient and a power of ten: the digits of its mantissa are the coefficient,
and the power of ten is that of the exponent part, less one for each digit after the point. -/
def SpellsMagnitude (text : List Char) (coefficient : Nat) (exponent : Int) : Prop :=
  ∃ mantissa whole fraction tail power, text = mantissa ++ tail ∧
    Mantissa mantissa whole fraction ∧ Exponent tail power ∧
    coefficient = digitsValue (whole ++ fraction) ∧ exponent = power - fraction.length

/-- A text spells a decimal, sign first. -/
def Spells (text : List Char) (d : Decimal) : Prop :=
  ∃ sign body, text = sign ++ body ∧ Sign sign d.negative ∧
    SpellsMagnitude body d.coefficient d.exponent

variable {text rest digits whole fraction : List Char} {negative : Bool} {d : Decimal}

/-! ### Signs -/

theorem splitSign_spec (text : List Char) :
    ∃ sign, Sign sign (splitSign text).1 ∧ text = sign ++ (splitSign text).2 := by
  unfold splitSign
  split
  · exact ⟨['+'], .plus, rfl⟩
  · exact ⟨['-'], .minus, rfl⟩
  · exact ⟨[], .none, rfl⟩

/-- A text whose first character is no sign. -/
def Unsigned (text : List Char) : Prop := ∀ c ∈ text.head?, c ≠ '+' ∧ c ≠ '-'

theorem splitSign_append {sign : List Char} (signed : Sign sign negative) (unsigned : Unsigned rest) :
    splitSign (sign ++ rest) = (negative, rest) := by
  cases signed with
  | plus => rfl
  | minus => rfl
  | none =>
    rw [List.nil_append, splitSign]
    · rintro following rfl
      exact (unsigned '+' rfl).1 rfl
    · rintro following rfl
      exact (unsigned '-' rfl).2 rfl

theorem unsigned_digits (row : Digits digits) (nonempty : digits ≠ []) (rest : List Char) :
    Unsigned (digits ++ rest) := by
  obtain ⟨c, digits, rfl⟩ := List.exists_cons_of_ne_nil nonempty
  rintro _ ⟨⟩
  have digit := row c List.mem_cons_self
  constructor
  · rintro rfl
    revert digit
    decide
  · rintro rfl
    revert digit
    decide

/-! ### Exponents -/

theorem readExponent?_of_exponent {power : Int} (exponent : Exponent text power) :
    readExponent? text = some power := by
  cases exponent with
  | none => rfl
  | @marked mark sign negative digits mark signed row nonempty =>
    have unsigned : Unsigned digits := by
      simpa using unsigned_digits row nonempty []
    have all : digits.all Char.isDigit = true := List.all_eq_true.mpr row
    simp only [readExponent?, if_pos mark, splitSign_append signed unsigned, nonempty, all, ne_eq,
      not_false_eq_true, and_self, if_true]

theorem exponent_of_readExponent? {power : Int} (read : readExponent? text = some power) :
    Exponent text power := by
  match text with
  | [] =>
    obtain rfl : 0 = power := by simpa [readExponent?] using read
    exact .none
  | mark :: rest =>
    obtain ⟨sign, signed, shape⟩ := splitSign_spec rest
    simp only [readExponent?] at read
    generalize splitSign rest = parts at signed shape read
    split at read
    case isFalse => contradiction
    case isTrue marked =>
      split at read
      case isFalse => contradiction
      case isTrue row =>
        obtain rfl := Option.some.inj read
        subst shape
        exact .marked marked signed (List.all_eq_true.mp row.2) row.1

/-! ### Mantissas -/

/-- A row of letters of one kind is taken off a text up to the first letter of another kind. -/
theorem takeWhile_word {kind : Char → Bool} {word : List Char} (letters : ∀ c ∈ word, kind c = true)
    (ended : ∀ c ∈ rest.head?, kind c = false) :
    (word ++ rest).takeWhile kind = word ∧ (word ++ rest).dropWhile kind = rest := by
  rw [List.takeWhile_append_of_pos letters, List.dropWhile_append_of_pos letters]
  cases rest with
  | nil => simp
  | cons c rest =>
    have other : kind c = false := ended c rfl
    simp [List.takeWhile, List.dropWhile, other]

theorem takeWhile_digits (row : Digits digits) (ended : ∀ c ∈ rest.head?, c.isDigit = false) :
    (digits ++ rest).takeWhile Char.isDigit = digits ∧
      (digits ++ rest).dropWhile Char.isDigit = rest :=
  takeWhile_word row ended

theorem digits_takeWhile (text : List Char) : Digits (text.takeWhile Char.isDigit) :=
  List.all_eq_true.mp List.all_takeWhile

/-- Where an exponent part may stand no digit stands, nor a point. -/
theorem head?_of_exponent {power : Int} (exponent : Exponent text power) :
    ∀ c ∈ text.head?, c.isDigit = false ∧ c ≠ '.' := by
  cases exponent with
  | none => simp
  | marked mark _ _ _ =>
    rintro _ ⟨⟩
    rcases mark with rfl | rfl <;> decide

theorem splitFraction_of_no_point (open' : ∀ c ∈ text.head?, c ≠ '.') :
    splitFraction text = ([], text) := by
  rw [splitFraction]
  rintro following rfl
  exact open' '.' rfl rfl

/-- The digits of a mantissa are taken up to the exponent part. -/
theorem split_mantissa {mantissa exponent : List Char} {power : Int}
    (digits : Mantissa mantissa whole fraction) (exponent' : Exponent exponent power) :
    (mantissa ++ exponent).takeWhile Char.isDigit = whole ∧
      splitFraction ((mantissa ++ exponent).dropWhile Char.isDigit) = (fraction, exponent) ∧
      ¬ (whole = [] ∧ fraction = []) := by
  have boundary := head?_of_exponent exponent'
  cases digits with
  | whole row nonempty =>
    obtain ⟨taken, dropped⟩ := takeWhile_digits row fun c member => (boundary c member).1
    refine ⟨taken, ?_, fun none => nonempty none.1⟩
    rw [dropped, splitFraction_of_no_point fun c member => (boundary c member).2]
  | point before after some =>
    rw [List.append_assoc, List.cons_append]
    have ended : ∀ c ∈ ('.' :: (fraction ++ exponent)).head?, c.isDigit = false := by
      rintro _ ⟨⟩
      decide
    obtain ⟨taken, dropped⟩ := takeWhile_digits before ended
    obtain ⟨takenAfter, droppedAfter⟩ := takeWhile_digits after fun c member => (boundary c member).1
    refine ⟨taken, ?_, fun none => by simp [none.1, none.2] at some⟩
    rw [dropped, splitFraction, takenAfter, droppedAfter]

theorem unsigned_mantissa {mantissa : List Char} (digits : Mantissa mantissa whole fraction)
    (rest : List Char) : Unsigned (mantissa ++ rest) := by
  cases digits with
  | whole row nonempty => exact unsigned_digits row nonempty rest
  | point row _ _ =>
    rw [List.append_assoc]
    by_cases none : whole = []
    · subst none
      rintro _ ⟨⟩
      decide
    · exact unsigned_digits row none _

/-- What is taken apart is a mantissa followed by the rest. -/
theorem mantissa_of_split (text : List Char)
    (some : ¬ (text.takeWhile Char.isDigit = [] ∧
      (splitFraction (text.dropWhile Char.isDigit)).1 = [])) :
    ∃ mantissa, Mantissa mantissa (text.takeWhile Char.isDigit)
        (splitFraction (text.dropWhile Char.isDigit)).1 ∧
      text = mantissa ++ (splitFraction (text.dropWhile Char.isDigit)).2 := by
  have parts : text.takeWhile Char.isDigit ++ text.dropWhile Char.isDigit = text :=
    List.takeWhile_append_dropWhile
  have row := digits_takeWhile text
  generalize text.takeWhile Char.isDigit = whole at some parts row ⊢
  generalize text.dropWhile Char.isDigit = rest at some parts ⊢
  subst parts
  unfold splitFraction at some ⊢
  split at some
  case h_1 following =>
    refine ⟨whole ++ '.' :: following.takeWhile Char.isDigit,
      .point row (digits_takeWhile following) (not_and_or.mp some), ?_⟩
    simp [List.takeWhile_append_dropWhile]
  case h_2 =>
    exact ⟨whole, .whole row (by simpa using some), rfl⟩

theorem Mantissa.row {mantissa : List Char} (parts : Mantissa mantissa whole fraction) :
    Digits (whole ++ fraction) := by
  cases parts with
  | whole row _ => rwa [List.append_nil]
  | point before after _ => exact List.forall_mem_append.mpr ⟨before, after⟩

/-- Before the exponent part of a literal stand its digits, and else only a sign and a point. -/
theorem any_before_exponent {kind : Char → Bool} {sign mantissa : List Char}
    (signed : Sign sign negative) (parts : Mantissa mantissa whole fraction)
    (others : kind '+' = false ∧ kind '-' = false ∧ kind '.' = false) :
    (sign ++ mantissa).any kind = (whole ++ fraction).any kind := by
  obtain ⟨plus, minus, point⟩ := others
  have none : sign.any kind = false := by cases signed <;> simp [plus, minus]
  rw [List.any_append, none, Bool.false_or]
  cases parts with
  | whole _ _ => rw [List.append_nil]
  | point _ _ _ => rw [List.any_append, List.any_append, List.any_cons, point, Bool.false_or]

/-! ### Literals -/

/-- **The reader accepts exactly the literals**, and answers the decimal that is spelled. -/
theorem read?_eq_some_iff : read? text = some d ↔ Spells text d := by
  constructor
  · intro read
    obtain ⟨sign, signed, shape⟩ := splitSign_spec text
    simp only [read?] at read
    generalize splitSign text = parts at signed shape read
    split at read
    case isTrue => contradiction
    case isFalse some =>
      obtain ⟨power, tail, rfl⟩ := Option.map_eq_some_iff.mp read
      obtain ⟨mantissa, digits, body⟩ := mantissa_of_split parts.2 some
      exact ⟨sign, parts.2, shape, signed, mantissa, _, _, _, power, body, digits,
        exponent_of_readExponent? tail, rfl, rfl⟩
  · rintro ⟨sign, _, rfl, signed, mantissa, whole, fraction, exponent, power, rfl, digits, tail,
      coefficient, exponentEq⟩
    obtain ⟨taken, split, some⟩ := split_mantissa digits tail
    have unsigned := unsigned_mantissa digits exponent
    simp only [read?, splitSign_append signed unsigned, taken, split, if_neg some,
      readExponent?_of_exponent tail, Option.map_some]
    rw [← coefficient, ← exponentEq]

end DualEval.Decimal

namespace DualEval.Operand

open Decimal

variable {letters digits : List Char} {d : Decimal}

/-! ### Digits other than zero -/

theorem isNonzeroDigit_iff {c : Char} (digit : c.isDigit = true) :
    isNonzeroDigit c = true ↔ c.toNat - '0'.toNat ≠ 0 := by
  have bounds := toNat_of_isDigit digit
  have between : isNonzeroDigit c = true ↔ 49 ≤ c.toNat ∧ c.toNat ≤ 57 := by
    rw [isNonzeroDigit, Bool.and_eq_true, decide_eq_true_eq, decide_eq_true_eq]
    exact Iff.rfl
  have zero : '0'.toNat = 48 := rfl
  rw [between, zero]
  omega

theorem foldl_digits_eq_zero_iff (row : Digits digits) (value : Nat) :
    digits.foldl (fun value digit => value * 10 + (digit.toNat - '0'.toNat)) value = 0 ↔
      value = 0 ∧ digits.any isNonzeroDigit = false := by
  induction digits generalizing value with
  | nil => simp
  | cons c digits ih =>
    have first := isNonzeroDigit_iff (row c List.mem_cons_self)
    rw [List.foldl_cons, ih (fun c member => row c (List.mem_cons_of_mem _ member)), List.any_cons,
      Bool.or_eq_false_iff, ← and_assoc, ← Bool.not_eq_true (isNonzeroDigit c), first]
    refine and_congr_left fun _ => ?_
    omega

/-- A row of digits is zero if no other digit is among them. -/
theorem digitsValue_eq_zero_iff (row : Digits digits) :
    digitsValue digits = 0 ↔ digits.any isNonzeroDigit = false := by
  rw [digitsValue, foldl_digits_eq_zero_iff row, eq_self, true_and]

/-- **The scan for a nonzero digit decides whether the coefficient of a literal is zero.** -/
theorem hasNonzeroDigit_eq_false_iff (literal : Spells letters d) :
    hasNonzeroDigit letters = false ↔ d.coefficient = 0 := by
  obtain ⟨sign, _, rfl, signed, mantissa, whole, fraction, exponent, power, rfl, parts, tail,
    coefficient, _⟩ := literal
  have row := parts.row
  have unmarked : ∀ c ∈ sign ++ mantissa, (!isMark c) = true := by
    have none : (sign ++ mantissa).any isMark = false := by
      rw [any_before_exponent signed parts ⟨rfl, rfl, rfl⟩, List.any_eq_false]
      intro c member marked
      have digit := row c member
      rcases (by simpa [isMark] using marked : c = 'e' ∨ c = 'E') with rfl | rfl <;> contradiction
    intro c member
    simpa using List.any_eq_false.mp none c member
  have ended : ∀ c ∈ exponent.head?, (!isMark c) = false := by
    cases tail with
    | none => simp
    | marked mark _ _ _ =>
      rintro _ ⟨⟩
      rcases mark with rfl | rfl <;> rfl
  rw [hasNonzeroDigit, ← List.append_assoc, (takeWhile_word unmarked ended).1,
    any_before_exponent signed parts ⟨rfl, rfl, rfl⟩, coefficient, digitsValue_eq_zero_iff row]

/-! ### Operands -/

/-- A word is a literal in range, and denotes the datum nearest to its decimal: the datum is finite,
and a zero only for a decimal without nonzero digits. -/
def Denotes (letters : List Char) (x : Binary32) : Prop :=
  ∃ d, Decimal.Spells letters d ∧ x = d.toDatum binary32 ∧ x.isFinite = true ∧
    (x.isZero = true → d.coefficient = 0)

/-- Operands are read from exactly the literals in range. -/
theorem read?_eq_some_iff {x : Binary32} : read? letters = some x ↔ Denotes letters x := by
  simp only [read?, Option.bind_eq_bind, Option.bind_eq_some_iff, Decimal.read?_eq_some_iff, Denotes]
  refine exists_congr fun d => and_congr_right fun literal => ?_
  simp only [hasNonzeroDigit_eq_false_iff literal]
  constructor
  · intro denoted
    split at denoted
    case isFalse => contradiction
    case isTrue range =>
      obtain rfl := Option.some.inj denoted
      exact ⟨rfl, range.1, fun nothing => range.2.resolve_left (by simp [nothing])⟩
  · rintro ⟨rfl, finite, nothing⟩
    rw [if_pos]
    refine ⟨finite, ?_⟩
    cases zero : (d.toDatum binary32).isZero with
    | false => exact .inl rfl
    | true => exact .inr (nothing zero)

end DualEval.Operand
