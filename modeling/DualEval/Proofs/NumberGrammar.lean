import DualEval.Decimal.Number
import DualEval.Proofs.LiteralGrammar
import DualEval.Text.Integer
import Mathlib.Data.List.Forall2

/-!
# The grammar of numbers

An integer is written as an optional plus and digits of its radix, and is read if it stays in range
(`DualEval.Text.readInteger_eq_ok_iff`).  A number is a literal of any range, or a sign and the name of
an infinity or of NaN (`DualEval.Decimal.readNumber_eq_ok_iff`); a literal never begins like a name.
-/

namespace DualEval

namespace Text

/-- The number that digit values spell behind a number already spelled. -/
def positional (radix start : Nat) (values : List Nat) : Nat :=
  values.foldl (fun n value => n * radix + value) start

/-- The digits of a row have these values. -/
def HaveValues (radix : Nat) : List Char → List Nat → Prop :=
  List.Forall₂ fun c value => digitValue? radix c = some value

/-- A row of digits of a radix and the number it spells, most significant digit first. -/
def Numeral (radix : Nat) (digits : List Char) (n : Nat) : Prop :=
  digits ≠ [] ∧ ∃ values, HaveValues radix digits values ∧ n = positional radix 0 values

/-- A text is an optional plus and a numeral. -/
def SpellsInteger (radix : Nat) (text : List Char) (n : Nat) : Prop :=
  ∃ digits, (text = digits ∨ text = '+' :: digits) ∧ Numeral radix digits n

variable {radix bound start n : Nat} {digits text : List Char}

theorem le_positional (positive : 0 < radix) (values : List Nat) (start : Nat) :
    start ≤ positional radix start values := by
  induction values generalizing start with
  | nil => exact Nat.le_refl start
  | cons value values ih =>
    calc start ≤ start * radix := Nat.le_mul_of_pos_right start positive
      _ ≤ start * radix + value := Nat.le_add_right _ _
      _ ≤ _ := ih (start * radix + value)

/-- Digits are read as long as the value stays below the bound, that is if it does so in the end. -/
theorem readDigits_eq_ok_iff (positive : 0 < radix) (low : start < bound) :
    readDigits radix bound start digits = .ok n ↔
      ∃ values, HaveValues radix digits values ∧ n = positional radix start values ∧ n < bound := by
  induction digits generalizing start with
  | nil =>
    constructor
    · rintro ⟨⟩
      exact ⟨[], .nil, rfl, low⟩
    · rintro ⟨values, row, total, _⟩
      cases row
      exact congrArg Except.ok total.symm
  | cons c digits ih =>
    rw [readDigits]
    simp only [HaveValues, List.forall₂_cons_left_iff] at ih ⊢
    cases digit : digitValue? radix c with
    | none => simp
    | some value =>
      by_cases next : start * radix + value < bound
      · simp [next, ih, positional]
      · -- further digits do not bring the value back below the bound
        simp only [if_neg next, reduceCtorEq, false_iff]
        rintro ⟨_, ⟨_, values, known, _, rfl⟩, rfl, small⟩
        obtain rfl := Option.some.inj known
        exact next (Nat.lt_of_le_of_lt (le_positional positive values _) small)

theorem digitValue?_plus (radix : Nat) : digitValue? radix '+' = none := by
  have other : ('+'.isDigit = false ∧ '+'.isLower = false) ∧ '+'.isUpper = false := by decide
  simp [digitValue?, other]

/-- A numeral does not begin with a plus. -/
theorem dropPlus_of_numeral (numeral : Numeral radix digits n) : dropPlus digits = digits := by
  rw [dropPlus]
  rintro rest rfl
  obtain ⟨_, values, row, _⟩ := numeral
  obtain ⟨value, _, known, _⟩ := List.forall₂_cons_left_iff.mp row
  rw [digitValue?_plus] at known
  contradiction

theorem dropPlus_spec (text : List Char) : text = dropPlus text ∨ text = '+' :: dropPlus text := by
  unfold dropPlus
  split
  · exact .inr rfl
  · exact .inl rfl

theorem spellsInteger_iff : SpellsInteger radix text n ↔ Numeral radix (dropPlus text) n := by
  constructor
  · rintro ⟨digits, rfl | rfl, numeral⟩
    · rwa [dropPlus_of_numeral numeral]
    · exact numeral
  · intro numeral
    exact ⟨dropPlus text, dropPlus_spec text, numeral⟩

/-- **Integers are read from exactly the texts that spell one in range.** -/
theorem readInteger_eq_ok_iff (positive : 0 < radix) (room : 0 < bound) :
    readInteger radix bound text = .ok n ↔ SpellsInteger radix text n ∧ n < bound := by
  rw [spellsInteger_iff, readInteger]
  by_cases empty : text = []
  · subst empty
    simp [dropPlus, Numeral]
  · rw [if_neg empty]
    split
    case h_1 nothing => simp [nothing, Numeral]
    case h_2 nonempty =>
      rw [readDigits_eq_ok_iff positive room, Numeral]
      constructor
      · rintro ⟨values, row, total, small⟩
        exact ⟨⟨nonempty, values, row, total⟩, small⟩
      · rintro ⟨⟨_, values, row, total⟩, small⟩
        exact ⟨values, row, total, small⟩

end Text

namespace Decimal

/-- A text names an infinity, letter case aside. -/
def NamesInfinity (name : List Char) : Prop :=
  name.map Char.toLower = ['i', 'n', 'f'] ∨
    name.map Char.toLower = ['i', 'n', 'f', 'i', 'n', 'i', 't', 'y']

/-- A text names NaN, letter case aside. -/
def NamesNaN (name : List Char) : Prop := name.map Char.toLower = ['n', 'a', 'n']

/-- A text spells a datum: it is a literal, of any range, or a sign and a name. -/
inductive SpellsDatum (F : Format) : List Char → Datum F → Prop where
  | literal {text : List Char} {d : Decimal} : Spells text d → SpellsDatum F text (d.toDatum F)
  | infinity {sign name : List Char} {negative : Bool} : Sign sign negative → NamesInfinity name →
      SpellsDatum F (sign ++ name) (Datum.infinity F negative)
  | nan {sign name : List Char} {negative : Bool} : Sign sign negative → NamesNaN name →
      SpellsDatum F (sign ++ name) (Datum.quietNaN F)

variable {F : Format} {text name body : List Char} {negative : Bool} {x : Datum F}

theorem namedValue?_of_infinity (named : NamesInfinity name) :
    namedValue? F negative name = some (Datum.infinity F negative) := if_pos named

theorem namedValue?_of_nan (named : NamesNaN name) :
    namedValue? F negative name = some (Datum.quietNaN F) := by
  rw [NamesNaN] at named
  simp [namedValue?, named]

/-- A name has a value, and begins with a letter. -/
theorem named_of_namedValue? (value : namedValue? F negative name = some x) :
    NamesInfinity name ∧ x = Datum.infinity F negative ∨ NamesNaN name ∧ x = Datum.quietNaN F := by
  simp only [namedValue?] at value
  split at value
  case isTrue infinite => exact .inl ⟨infinite, (Option.some.inj value).symm⟩
  case isFalse =>
    split at value
    case isTrue nan => exact .inr ⟨nan, (Option.some.inj value).symm⟩
    case isFalse => contradiction

theorem toLower_of_isDigit {c : Char} (digit : c.isDigit = true) : c.toLower = c := by
  apply dif_neg
  rintro ⟨low, _⟩
  simp only [Char.isDigit, Bool.and_eq_true, decide_eq_true_eq] at digit
  exact absurd (UInt32.le_trans low digit.2) (by decide)

/-- A name begins with a letter. -/
theorem head?_of_name (named : NamesInfinity name ∨ NamesNaN name) :
    ∃ c ∈ name.head?, c.toLower = 'i' ∨ c.toLower = 'n' := by
  rcases named with (named | named) | named
  all_goals
    obtain ⟨c, rest, rfl, first, _⟩ := List.map_eq_cons_iff.mp named
    simp [first]

theorem unsigned_of_name (named : NamesInfinity name ∨ NamesNaN name) : Unsigned name := by
  obtain ⟨c, first, letter⟩ := head?_of_name named
  intro d other
  obtain rfl : c = d := Option.mem_unique first other
  constructor
  · rintro rfl
    exact absurd letter (by decide)
  · rintro rfl
    exact absurd letter (by decide)

/-- The magnitude of a literal begins with a digit or the point. -/
theorem head?_of_magnitude {coefficient : Nat} {exponent : Int}
    (spelled : SpellsMagnitude body coefficient exponent) :
    ∃ c ∈ body.head?, c.isDigit = true ∨ c = '.' := by
  obtain ⟨mantissa, whole, fraction, tail, _, rfl, digits, _⟩ := spelled
  have started (row : Digits whole) (nonempty : whole ≠ []) (rest : List Char) :
      ∃ c ∈ (whole ++ rest).head?, c.isDigit = true ∨ c = '.' := by
    obtain ⟨c, whole, rfl⟩ := List.exists_cons_of_ne_nil nonempty
    exact ⟨c, rfl, .inl (row c List.mem_cons_self)⟩
  cases digits with
  | whole row nonempty => exact started row nonempty tail
  | point row _ _ =>
    rw [List.append_assoc]
    by_cases none : whole = []
    · subst none
      exact ⟨'.', rfl, .inr rfl⟩
    · exact started row none _

theorem namedValue?_of_magnitude {coefficient : Nat} {exponent : Int}
    (spelled : SpellsMagnitude body coefficient exponent) : namedValue? F negative body = none := by
  by_contra value
  obtain ⟨x, value⟩ := Option.ne_none_iff_exists'.mp value
  have named := (named_of_namedValue? value).imp And.left And.left
  obtain ⟨c, first, letter⟩ := head?_of_name named
  obtain ⟨d, other, digit⟩ := head?_of_magnitude spelled
  obtain rfl : c = d := Option.mem_unique first other
  rcases digit with digit | rfl
  · rw [toLower_of_isDigit digit] at letter
    rcases letter with rfl | rfl
    · exact absurd digit (by decide)
    · exact absurd digit (by decide)
  · exact absurd letter (by decide)

/-- **Numbers are read from exactly the texts that spell a datum.** -/
theorem readNumber_eq_ok_iff : readNumber F text = .ok x ↔ SpellsDatum F text x := by
  constructor
  · intro read
    obtain ⟨sign, signed, shape⟩ := splitSign_spec text
    simp only [readNumber] at read
    generalize splitSign text = parts at signed shape read
    split at read
    case isTrue => contradiction
    case isFalse =>
      split at read
      case h_1 value known =>
        obtain rfl := Except.ok.inj read
        rw [shape]
        rcases named_of_namedValue? known with ⟨named, rfl⟩ | ⟨named, rfl⟩
        · exact .infinity signed named
        · exact .nan signed named
      case h_2 literal _ known =>
        obtain rfl := Except.ok.inj read
        exact .literal (read?_eq_some_iff.mp known)
      case h_3 => contradiction
  · intro spelled
    have read {sign rest : List Char} {negative : Bool} {x : Datum F} (signed : Sign sign negative)
        (unsigned : Unsigned rest) (named : namedValue? F negative rest = some x) :
        readNumber F (sign ++ rest) = .ok x := by
      have nonempty : sign ++ rest ≠ [] := by
        rintro empty
        rw [(List.append_eq_nil_iff.mp empty).2] at named
        contradiction
      simp only [readNumber, if_neg nonempty, splitSign_append signed unsigned, named]
    cases spelled with
    | infinity signed named =>
      exact read signed (unsigned_of_name (.inl named)) (namedValue?_of_infinity named)
    | nan signed named => exact read signed (unsigned_of_name (.inr named)) (namedValue?_of_nan named)
    | @literal _ d spelled =>
      have known := read?_eq_some_iff.mpr spelled
      have nonempty : text ≠ [] := by
        rintro rfl
        contradiction
      obtain ⟨sign, body, rfl, signed, magnitude⟩ := spelled
      obtain ⟨mantissa, _, _, tail, _, rfl, digits, _⟩ := id magnitude
      have unsigned := unsigned_mantissa digits tail
      simp only [readNumber, if_neg nonempty, splitSign_append signed unsigned,
        namedValue?_of_magnitude magnitude, known]

end Decimal

end DualEval
