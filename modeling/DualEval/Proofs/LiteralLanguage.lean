import DualEval.Proofs.NumberGrammar
import DualEval.Proofs.OperandRange
import Mathlib.Computability.RegularExpressions

/-!
# The languages of literals and of numbers

The grammar of literals and that of the numbers of an argument as regular expressions.  The readers
accept these languages and nothing else, every literal is a number, and of the literals an operand
refuses only those whose number is out of range (`DualEval.Decimal.literal_language`).
-/

namespace DualEval.Decimal

/-! ### Regular expressions -/

namespace Grammar

open RegularExpression

/-- One of some characters. -/
def oneOf (letters : List Char) : RegularExpression Char := (letters.map char).sum

/-- Some characters in a row. -/
def spelled (letters : List Char) : RegularExpression Char := (letters.map char).prod

def optional (P : RegularExpression Char) : RegularExpression Char := 1 + P

def digit : RegularExpression Char := oneOf ['0', '1', '2', '3', '4', '5', '6', '7', '8', '9']

/-- One digit or more. -/
def digits : RegularExpression Char := digit * star digit

def point : RegularExpression Char := char '.'

def sign : RegularExpression Char := optional (oneOf ['+', '-'])

/-- An optional exponent, set off by one of some marks. -/
def exponent (marks : List Char) : RegularExpression Char := optional (oneOf marks * sign * digits)

/-- The mantissa of a literal: `digits ('.' digits?)? | '.' digits`. -/
def literalMantissa : RegularExpression Char :=
  digits * optional (point * optional digits) + point * digits

/-- A literal: `[+-]? (digits ('.' digits?)? | '.' digits) ([eE] [+-]? digits)?`. -/
def literal : RegularExpression Char := sign * literalMantissa * exponent ['e', 'E']

/-- The mantissa of a number: `digit+ | digit+ '.' digit* | digit* '.' digit+`. -/
def numberMantissa : RegularExpression Char :=
  digits + digits * point * star digit + star digit * point * digits

/-- A name that a number can have instead of digits. -/
def name : RegularExpression Char :=
  spelled ['i', 'n', 'f'] + spelled ['i', 'n', 'f', 'i', 'n', 'i', 't', 'y'] +
    spelled ['n', 'a', 'n']

/-- A number in lower case: `[+-]? ('inf' | 'infinity' | 'nan' | mantissa ('e' [+-]? digit+)?)`. -/
def number : RegularExpression Char := sign * (name + numberMantissa * exponent ['e'])

variable {letters text : List Char} {P : RegularExpression Char}

theorem mem_oneOf : text ∈ (oneOf letters).matches' ↔ ∃ c ∈ letters, text = [c] := by
  induction letters with
  | nil => simp [oneOf]
  | cons c letters ih =>
    rw [List.exists_mem_cons_iff, ← ih]
    rfl

theorem mem_spelled : text ∈ (spelled letters).matches' ↔ text = letters := by
  induction letters generalizing text with
  | nil => rfl
  | cons c letters ih =>
    change text ∈ (char c).matches' * (spelled letters).matches' ↔ _
    simp only [Language.mem_mul, ih, matches'_char]
    constructor
    · rintro ⟨_, rfl, _, rfl, rfl⟩
      rfl
    · rintro rfl
      exact ⟨[c], rfl, letters, rfl, rfl⟩

theorem mem_optional : text ∈ (optional P).matches' ↔ text = [] ∨ text ∈ P.matches' := Iff.rfl

theorem mem_star_oneOf : text ∈ (star (oneOf letters)).matches' ↔ ∀ c ∈ text, c ∈ letters := by
  rw [matches'_star, Language.mem_kstar]
  constructor
  · rintro ⟨pieces, rfl, known⟩ c member
    obtain ⟨piece, chosen, member⟩ := List.mem_flatten.mp member
    obtain ⟨d, allowed, rfl⟩ := mem_oneOf.mp (known piece chosen)
    rwa [List.mem_singleton.mp member]
  · intro known
    refine ⟨text.map fun c => [c], ?_, ?_⟩
    · rw [← List.flatMap_def, List.flatMap_singleton']
    · intro piece chosen
      obtain ⟨c, member, rfl⟩ := List.mem_map.mp chosen
      exact mem_oneOf.mpr ⟨c, known c member, rfl⟩

theorem mem_digitLetters {c : Char} :
    c ∈ ['0', '1', '2', '3', '4', '5', '6', '7', '8', '9'] ↔ c.isDigit = true := by
  constructor
  · intro member
    have known : ['0', '1', '2', '3', '4', '5', '6', '7', '8', '9'].all Char.isDigit = true := by
      decide
    exact List.all_eq_true.mp known c member
  · intro digit
    have range := toNat_of_isDigit digit
    have known : ∀ n, n ≤ 57 → 48 ≤ n →
        Char.ofNat n ∈ ['0', '1', '2', '3', '4', '5', '6', '7', '8', '9'] := by decide
    have member := known c.toNat range.2 range.1
    rwa [Char.ofNat_toNat] at member

theorem mem_star_digit : text ∈ (star digit).matches' ↔ Digits text := by
  rw [digit, mem_star_oneOf]
  exact forall₂_congr fun c _ => mem_digitLetters

theorem mem_digit : text ∈ digit.matches' ↔ ∃ c, c.isDigit = true ∧ text = [c] := by
  rw [digit, mem_oneOf]
  exact exists_congr fun c => and_congr_left fun _ => mem_digitLetters

theorem mem_digits : text ∈ digits.matches' ↔ Digits text ∧ text ≠ [] := by
  rw [digits, matches'_mul, Language.mem_mul]
  simp only [mem_star_digit, mem_digit]
  constructor
  · rintro ⟨_, ⟨c, first, rfl⟩, rest, row, rfl⟩
    exact ⟨List.forall_mem_cons.mpr ⟨first, row⟩, List.cons_ne_nil c rest⟩
  · rintro ⟨row, nonempty⟩
    obtain ⟨c, rest, rfl⟩ := List.exists_cons_of_ne_nil nonempty
    obtain ⟨first, row⟩ := List.forall_mem_cons.mp row
    exact ⟨[c], ⟨c, first, rfl⟩, rest, row, rfl⟩

theorem mem_sign : text ∈ sign.matches' ↔ ∃ negative, Sign text negative := by
  rw [sign, mem_optional, mem_oneOf]
  constructor
  · rintro (rfl | ⟨c, member, rfl⟩)
    · exact ⟨_, .none⟩
    · rcases List.mem_pair.mp member with rfl | rfl
      · exact ⟨_, .plus⟩
      · exact ⟨_, .minus⟩
  · rintro ⟨_, none | plus | minus⟩
    · exact .inl rfl
    · exact .inr ⟨'+', by decide, rfl⟩
    · exact .inr ⟨'-', by decide, rfl⟩

theorem mem_exponent {marks : List Char} : text ∈ (exponent marks).matches' ↔
    text = [] ∨ ∃ mark ∈ marks, ∃ signs row negative,
      text = mark :: (signs ++ row) ∧ Sign signs negative ∧ Digits row ∧ row ≠ [] := by
  simp only [exponent, mem_optional, matches'_mul, Language.mem_mul, mem_oneOf, mem_sign, mem_digits]
  apply or_congr_right
  constructor
  · rintro ⟨_, ⟨_, ⟨mark, member, rfl⟩, signs, ⟨negative, signed⟩, rfl⟩, row, digits, rfl⟩
    exact ⟨mark, member, signs, row, negative, rfl, signed, digits⟩
  · rintro ⟨mark, member, signs, row, negative, rfl, signed, digits⟩
    exact ⟨_, ⟨[mark], ⟨mark, member, rfl⟩, signs, ⟨negative, signed⟩, rfl⟩, row, digits, rfl⟩

theorem mem_exponent_iff :
    text ∈ (exponent ['e', 'E']).matches' ↔ ∃ power, Exponent text power := by
  rw [mem_exponent]
  constructor
  · rintro (rfl | ⟨mark, member, signs, row, negative, rfl, signed, digits, nonempty⟩)
    · exact ⟨_, .none⟩
    · exact ⟨_, .marked (List.mem_pair.mp member) signed digits nonempty⟩
  · rintro ⟨_, none | ⟨mark, signed, digits, nonempty⟩⟩
    · exact .inl rfl
    · exact .inr ⟨_, List.mem_pair.mpr mark, _, _, _, rfl, signed, digits, nonempty⟩

theorem mem_literalMantissa :
    text ∈ literalMantissa.matches' ↔ ∃ whole fraction, Mantissa text whole fraction := by
  simp only [literalMantissa, matches'_add, matches'_mul, Language.mem_add, Language.mem_mul,
    mem_optional, mem_digits, point, matches'_char]
  constructor
  · rintro (⟨whole, ⟨row, nonempty⟩, _, rfl | ⟨_, rfl, fraction, digits, rfl⟩, rfl⟩ |
      ⟨_, rfl, fraction, ⟨row, nonempty⟩, rfl⟩)
    · rw [List.append_nil]
      exact ⟨_, _, .whole row nonempty⟩
    · rcases digits with rfl | ⟨digits, _⟩
      · exact ⟨_, _, .point row (List.forall_mem_nil _) (.inl nonempty)⟩
      · exact ⟨_, _, .point row digits (.inl nonempty)⟩
    · exact ⟨[], _, .point (List.forall_mem_nil _) row (.inr nonempty)⟩
  · rintro ⟨whole, fraction, ⟨row, nonempty⟩ | ⟨before, after, nonempty⟩⟩
    · exact .inl ⟨_, ⟨row, nonempty⟩, [], .inl rfl, List.append_nil _⟩
    · by_cases bare : whole = []
      · subst bare
        exact .inr ⟨['.'], rfl, fraction, ⟨after, nonempty.resolve_left (not_not.mpr rfl)⟩, rfl⟩
      · refine .inl ⟨whole, ⟨before, bare⟩, _, .inr ⟨['.'], rfl, fraction, ?_, rfl⟩, rfl⟩
        exact or_iff_not_imp_left.mpr fun some => ⟨after, some⟩

/-- The mantissas of numbers are those of literals. -/
theorem mem_numberMantissa :
    text ∈ numberMantissa.matches' ↔ ∃ whole fraction, Mantissa text whole fraction := by
  simp only [numberMantissa, matches'_add, matches'_mul, Language.mem_add, Language.mem_mul, mem_digits,
    mem_star_digit, point, matches'_char]
  constructor
  · rintro ((⟨row, nonempty⟩ | ⟨_, ⟨whole, ⟨row, nonempty⟩, _, rfl, rfl⟩, fraction, digits, rfl⟩) |
      ⟨_, ⟨whole, row, _, rfl, rfl⟩, fraction, ⟨digits, nonempty⟩, rfl⟩)
    · exact ⟨_, _, .whole row nonempty⟩
    · rw [List.append_assoc]
      exact ⟨_, _, .point row digits (.inl nonempty)⟩
    · rw [List.append_assoc]
      exact ⟨_, _, .point row digits (.inr nonempty)⟩
  · rintro ⟨whole, fraction, ⟨row, nonempty⟩ | ⟨before, after, nonempty | nonempty⟩⟩
    · exact .inl (.inl ⟨row, nonempty⟩)
    · exact .inl (.inr ⟨_, ⟨whole, ⟨before, nonempty⟩, _, rfl, rfl⟩, fraction, after,
        List.append_assoc _ _ _⟩)
    · exact .inr ⟨_, ⟨whole, before, _, rfl, rfl⟩, fraction, ⟨after, nonempty⟩,
        List.append_assoc _ _ _⟩

/-- The language of literals is what spells a decimal. -/
theorem mem_literal : text ∈ literal.matches' ↔ ∃ d, Spells text d := by
  rw [literal, matches'_mul, matches'_mul, Language.mem_mul]
  simp only [Language.mem_mul, mem_sign, mem_literalMantissa, mem_exponent_iff]
  constructor
  · rintro ⟨_, ⟨signs, ⟨negative, signed⟩, mantissa, ⟨whole, fraction, digits⟩, rfl⟩, tail,
      ⟨power, exponent⟩, rfl⟩
    refine ⟨⟨negative, _, _⟩, signs, mantissa ++ tail, List.append_assoc _ _ _, signed, mantissa,
      whole, fraction, tail, power, rfl, digits, exponent, rfl, rfl⟩
  · rintro ⟨d, signs, _, rfl, signed, mantissa, whole, fraction, tail, power, rfl, digits, exponent,
      _, _⟩
    exact ⟨_, ⟨signs, ⟨_, signed⟩, mantissa, ⟨whole, fraction, digits⟩, rfl⟩, tail,
      ⟨power, exponent⟩, List.append_assoc _ _ _⟩

theorem mem_name : text ∈ name.matches' ↔
    (text = ['i', 'n', 'f'] ∨ text = ['i', 'n', 'f', 'i', 'n', 'i', 't', 'y']) ∨
      text = ['n', 'a', 'n'] := by
  simp only [name, matches'_add, Language.mem_add, mem_spelled]

theorem mem_number : text ∈ number.matches' ↔
    ∃ signs body negative, text = signs ++ body ∧ Sign signs negative ∧
      (body ∈ name.matches' ∨ ∃ mantissa tail, body = mantissa ++ tail ∧
        (∃ whole fraction, Mantissa mantissa whole fraction) ∧ tail ∈ (exponent ['e']).matches') := by
  simp only [number, matches'_mul, matches'_add, Language.mem_mul, Language.mem_add, mem_sign,
    mem_numberMantissa]
  constructor
  · rintro ⟨signs, ⟨negative, signed⟩, body, named | ⟨mantissa, digits, tail, exponent, rfl⟩, rfl⟩
    · exact ⟨signs, body, negative, rfl, signed, .inl named⟩
    · exact ⟨signs, _, negative, rfl, signed, .inr ⟨mantissa, tail, rfl, digits, exponent⟩⟩
  · rintro ⟨signs, body, negative, rfl, signed, named | ⟨mantissa, tail, rfl, digits, exponent⟩⟩
    · exact ⟨signs, ⟨negative, signed⟩, body, .inl named, rfl⟩
    · exact ⟨signs, ⟨negative, signed⟩, _, .inr ⟨mantissa, digits, tail, exponent, rfl⟩, rfl⟩

end Grammar

/-! ### Letter case -/

/-- A text in lower case. -/
def lowered (text : List Char) : List Char := text.map Char.toLower

/-- A text without any letters. -/
def Unlettered (text : List Char) : Prop := ∀ c ∈ text, c.isAlpha = false

variable {text : List Char}

/-- Only capital letters are changed, and into small ones. -/
theorem toLower_cases (c : Char) :
    c.toLower = c ∨ c.isAlpha = true ∧ c.toLower.isAlpha = true ∧ c.toLower.toNat = c.toNat + 32 := by
  unfold Char.toLower
  split
  case isFalse => exact .inl rfl
  case isTrue capital =>
    have range : 65 ≤ c.val.toNat ∧ c.val.toNat ≤ 90 := capital
    have shift : ('a'.val - 'A'.val).toNat = 32 := rfl
    have moved : (c.val + ('a'.val - 'A'.val)).toNat = c.val.toNat + 32 := by
      rw [UInt32.toNat_add, shift]
      exact Nat.mod_eq_of_lt (by omega)
    have small : 97 ≤ (c.val + ('a'.val - 'A'.val)).toNat ∧
        (c.val + ('a'.val - 'A'.val)).toNat ≤ 122 := by omega
    refine .inr ⟨?_, ?_, moved⟩
    · have upper : c.isUpper = true := decide_eq_true capital
      exact (Bool.or_eq_true _ _).mpr (.inl upper)
    · have lower := (Bool.and_eq_true _ _).mpr
        ⟨decide_eq_true (p := _ ≥ 'a'.val) small.1, decide_eq_true (p := _ ≤ 'z'.val) small.2⟩
      exact (Bool.or_eq_true _ _).mpr (.inr lower)

/-- Two letters have `e` as their small letter. -/
theorem toLower_eq_e_iff {c : Char} : c.toLower = 'e' ↔ c = 'e' ∨ c = 'E' := by
  constructor
  · intro small
    rcases toLower_cases c with same | ⟨_, _, moved⟩
    · exact .inl (same.symm.trans small)
    · right
      rw [small] at moved
      have code : c.toNat = 'E'.toNat := by
        have known : 'e'.toNat = 'E'.toNat + 32 := rfl
        omega
      exact Char.toNat_inj.mp code
  · rintro (rfl | rfl) <;> decide

theorem lowered_of_unlettered (plain : Unlettered text) : lowered text = text := by
  have fixed : ∀ c ∈ text, c.toLower = c := fun c member =>
    (toLower_cases c).resolve_right fun letter => by simp [plain c member] at letter
  exact (List.map_congr_left fixed).trans (List.map_id text)

theorem eq_of_unlettered_lowered (plain : Unlettered (lowered text)) : lowered text = text := by
  have fixed : ∀ c ∈ text, c.toLower = c := fun c member =>
    (toLower_cases c).resolve_right fun letter => by
      simp [plain _ (List.mem_map_of_mem member)] at letter
  exact (List.map_congr_left fixed).trans (List.map_id text)

/-- What holds only of texts without letters does not depend on their case. -/
theorem lowered_iff {P : List Char → Prop} (plain : ∀ {text}, P text → Unlettered text) :
    P (lowered text) ↔ P text := by
  constructor
  · intro holds
    rwa [eq_of_unlettered_lowered (plain holds)] at holds
  · intro holds
    rwa [lowered_of_unlettered (plain holds)]

theorem unlettered_of_digits (row : Digits text) : Unlettered text := by
  have known : ['0', '1', '2', '3', '4', '5', '6', '7', '8', '9'].all (!·.isAlpha) = true := by
    decide
  intro c member
  have listed := Grammar.mem_digitLetters.mpr (row c member)
  exact (Bool.not_eq_true' _).mp (List.all_eq_true.mp known c listed)

theorem unlettered_of_sign {negative : Bool} (signed : Sign text negative) : Unlettered text := by
  cases signed with
  | none => exact List.forall_mem_nil _
  | plus => exact List.forall_mem_singleton.mpr (by decide)
  | minus => exact List.forall_mem_singleton.mpr (by decide)

theorem unlettered_of_mantissa {whole fraction : List Char}
    (digits : Mantissa text whole fraction) : Unlettered text := by
  cases digits with
  | whole row _ => exact unlettered_of_digits row
  | point before after _ =>
    intro c member
    rcases List.mem_append.mp member with member | member
    · exact unlettered_of_digits before c member
    · rcases List.mem_cons.mp member with rfl | member
      · decide
      · exact unlettered_of_digits after c member

namespace Grammar

/-- The exponents of literals are those of numbers, except that the mark can be a capital letter. -/
theorem lowered_mem_exponent :
    lowered text ∈ (exponent ['e']).matches' ↔ text ∈ (exponent ['e', 'E']).matches' := by
  rw [mem_exponent, mem_exponent]
  constructor
  · rintro (nothing | ⟨mark, marked, signs, row, negative, shape, signed, digits, nonempty⟩)
    · exact .inl (List.map_eq_nil_iff.mp nothing)
    · right
      obtain rfl := List.mem_singleton.mp marked
      obtain ⟨c, rest, rfl, small, rest'⟩ := List.map_eq_cons_iff.mp shape
      have plain : Unlettered (lowered rest) := by
        rw [lowered, rest']
        exact List.forall_mem_append.mpr
          ⟨unlettered_of_sign signed, unlettered_of_digits digits⟩
      rw [← lowered, eq_of_unlettered_lowered plain] at rest'
      exact ⟨c, List.mem_pair.mpr (toLower_eq_e_iff.mp small), signs, row, negative,
        congrArg (c :: ·) rest', signed, digits, nonempty⟩
  · rintro (rfl | ⟨mark, marked, signs, row, negative, rfl, signed, digits, nonempty⟩)
    · exact .inl rfl
    · right
      have small := toLower_eq_e_iff.mpr (List.mem_pair.mp marked)
      have plain : lowered (signs ++ row) = signs ++ row := lowered_of_unlettered
        (List.forall_mem_append.mpr ⟨unlettered_of_sign signed, unlettered_of_digits digits⟩)
      refine ⟨'e', List.mem_singleton.mpr rfl, signs, row, negative, ?_, signed, digits, nonempty⟩
      rw [lowered, List.map_cons, small, ← lowered, plain]

theorem lowered_sign {signs : List Char} :
    (∃ negative, Sign (lowered signs) negative) ↔ ∃ negative, Sign signs negative :=
  lowered_iff (P := fun signs => ∃ negative, Sign signs negative) fun ⟨_, signed⟩ =>
    unlettered_of_sign signed

theorem lowered_mantissa {mantissa : List Char} :
    (∃ whole fraction, Mantissa (lowered mantissa) whole fraction) ↔
      ∃ whole fraction, Mantissa mantissa whole fraction :=
  lowered_iff (P := fun mantissa => ∃ whole fraction, Mantissa mantissa whole fraction)
    fun ⟨_, _, digits⟩ => unlettered_of_mantissa digits

/-- A number in any letter case, by its parts. -/
theorem lowered_mem_number : lowered text ∈ number.matches' ↔
    ∃ signs body negative, text = signs ++ body ∧ Sign signs negative ∧
      (lowered body ∈ name.matches' ∨ ∃ mantissa tail, body = mantissa ++ tail ∧
        (∃ whole fraction, Mantissa mantissa whole fraction) ∧
        tail ∈ (exponent ['e', 'E']).matches') := by
  rw [mem_number]
  constructor
  · rintro ⟨_, _, negative, shape, signed, known⟩
    obtain ⟨signs, body, rfl, rfl, rfl⟩ := List.map_eq_append_iff.mp shape
    obtain ⟨negative, signed⟩ := lowered_sign.mp ⟨negative, signed⟩
    refine ⟨signs, body, negative, rfl, signed, known.imp_right ?_⟩
    rintro ⟨_, _, shape, digits, exponent⟩
    obtain ⟨mantissa, tail, rfl, rfl, rfl⟩ := List.map_eq_append_iff.mp shape
    exact ⟨mantissa, tail, rfl, lowered_mantissa.mp digits, lowered_mem_exponent.mp exponent⟩
  · rintro ⟨signs, body, negative, rfl, signed, known⟩
    obtain ⟨negative, signed⟩ := lowered_sign.mpr ⟨negative, signed⟩
    refine ⟨lowered signs, lowered body, negative, List.map_append, signed, known.imp_right ?_⟩
    rintro ⟨mantissa, tail, rfl, digits, exponent⟩
    exact ⟨lowered mantissa, lowered tail, List.map_append, lowered_mantissa.mpr digits,
      lowered_mem_exponent.mpr exponent⟩

end Grammar

open Grammar

/-- **The texts that spell a number are the language of numbers**, in any letter case. -/
theorem spellsDatum_iff (F : Format) :
    (∃ x, SpellsDatum F text x) ↔ lowered text ∈ Grammar.number.matches' := by
  rw [lowered_mem_number]
  constructor
  · rintro ⟨_, spelled⟩
    cases spelled with
    | literal literal =>
      obtain ⟨signs, _, rfl, signed, mantissa, whole, fraction, tail, power, rfl, digits, exponent,
        _⟩ := literal
      exact ⟨signs, _, _, rfl, signed, .inr ⟨mantissa, tail, rfl, ⟨whole, fraction, digits⟩,
        mem_exponent_iff.mpr ⟨power, exponent⟩⟩⟩
    | @infinity signs name negative signed named =>
      exact ⟨signs, name, negative, rfl, signed, .inl (mem_name.mpr (.inl named))⟩
    | @nan signs name negative signed named =>
      exact ⟨signs, name, negative, rfl, signed, .inl (mem_name.mpr (.inr named))⟩
  · rintro ⟨signs, body, negative, rfl, signed, named | ⟨mantissa, tail, rfl, digits, exponent⟩⟩
    · rcases mem_name.mp named with infinite | nan
      · exact ⟨_, .infinity signed infinite⟩
      · exact ⟨_, .nan signed nan⟩
    · obtain ⟨whole, fraction, digits⟩ := digits
      obtain ⟨power, exponent⟩ := mem_exponent_iff.mp exponent
      have spelled : Spells (signs ++ (mantissa ++ tail)) ⟨negative, _, _⟩ :=
        ⟨signs, _, rfl, signed, mantissa, whole, fraction, tail, power, rfl, digits, exponent, rfl, rfl⟩
      exact ⟨_, .literal spelled⟩

/-- No finite datum stands for the number of a decimal: it rounds to an infinity, or to a zero although
it is none. -/
def OutOfRange (d : Decimal) : Prop :=
  2 ^ 128 - 2 ^ 103 ≤ |d.number| ∨ d.number ≠ 0 ∧ |d.number| ≤ 1 / 2 ^ 150

theorem outOfRange_iff {d : Decimal} : OutOfRange d ↔
    ¬ ((d.toDatum binary32).isFinite = true ∧
      ((d.toDatum binary32).isZero = false ∨ d.number = 0)) := by
  rw [OutOfRange, ← not_lt, ← isFinite_toDatum_iff, ← isZero_toDatum_iff, not_and_or, not_or,
    Bool.not_eq_false, and_comm (a := ¬ d.number = 0)]

/-- **Literals are the texts of their grammar.** The reader accepts exactly these, as the reader of
numbers accepts exactly the numbers in any letter case.  A literal is always accepted as a number too,
and is refused as an operand only if its number is out of range; any other text is always refused. -/
theorem literal_language (text : List Char) :
    ((read? text).isSome = true ↔ text ∈ literal.matches') ∧
    ((∃ x, readNumber binary32 text = .ok x) ↔ lowered text ∈ Grammar.number.matches') ∧
    (text ∈ literal.matches' → ∃ d, read? text = some d ∧
      readNumber binary32 text = .ok (d.toDatum binary32) ∧
      (¬ OutOfRange d → Operand.read text = .ok (d.toDatum binary32)) ∧
      (OutOfRange d → Operand.read text = .error (.invalidOperand (String.ofList text)))) ∧
    (text ∉ literal.matches' →
      Operand.read text = .error (.invalidOperand (String.ofList text))) := by
  have accepted : (read? text).isSome = true ↔ text ∈ literal.matches' := by
    rw [Option.isSome_iff_exists, mem_literal]
    exact exists_congr fun d => read?_eq_some_iff
  refine ⟨accepted, ?_, fun member => ?_, fun other => ?_⟩
  · rw [← spellsDatum_iff binary32]
    exact exists_congr fun x => readNumber_eq_ok_iff
  · obtain ⟨d, spelled⟩ := mem_literal.mp member
    refine ⟨d, read?_eq_some_iff.mpr spelled, readNumber_eq_ok_iff.mpr (.literal spelled), ?_, ?_⟩
    · intro within
      rw [outOfRange_iff, not_not] at within
      rw [Operand.read_of_spells spelled, if_pos within]
    · intro out
      rw [Operand.read_of_spells spelled, if_neg (outOfRange_iff.mp out)]
  · apply Expression.read_of_not_denotes
    rintro x ⟨d, spelled, _⟩
    exact other (mem_literal.mpr ⟨d, spelled⟩)

end DualEval.Decimal
