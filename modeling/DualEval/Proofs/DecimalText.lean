import DualEval.Decimal.Layout
import DualEval.Proofs.LiteralGrammar
import DualEval.Proofs.ShortestDecimal

/-!
# The text of a decimal

Whatever the layout, the text of a decimal is a literal that spells the same number: zeros that are
left out or filled in, the place of the point and the exponent part balance each other.
-/

namespace DualEval.Decimal

/-! ### Rows of digits -/

theorem digitsValue_eq_ofDigitChars (digits : List Char) :
    digitsValue digits = Nat.ofDigitChars 10 digits 0 := by
  simp only [digitsValue, Nat.ofDigitChars, Nat.mul_comm]

theorem digitsValue_append (high low : List Char) :
    digitsValue (high ++ low) = digitsValue high * 10 ^ low.length + digitsValue low := by
  rw [digitsValue_eq_ofDigitChars, Nat.ofDigitChars_append, Nat.ofDigitChars_eq_ofDigitChars_zero,
    ← digitsValue_eq_ofDigitChars, ← digitsValue_eq_ofDigitChars, Nat.mul_comm]

theorem digitsValue_zeros (n : Nat) : digitsValue (List.replicate n '0') = 0 := by
  rw [digitsValue_eq_ofDigitChars, Nat.ofDigitChars_replicate_zero, Nat.mul_zero]

theorem digitsValue_append_zeros (digits : List Char) (n : Nat) :
    digitsValue (digits ++ List.replicate n '0') = digitsValue digits * 10 ^ n := by
  rw [digitsValue_append, digitsValue_zeros, List.length_replicate, Nat.add_zero]

theorem digitsValue_zeros_append (n : Nat) (digits : List Char) :
    digitsValue (List.replicate n '0' ++ digits) = digitsValue digits := by
  rw [digitsValue_append, digitsValue_zeros, Nat.zero_mul, Nat.zero_add]

theorem digitsValue_toDigits (n : Nat) : digitsValue (Nat.toDigits 10 n) = n := by
  rw [digitsValue_eq_ofDigitChars, Nat.ofDigitChars_ten_toDigits]

theorem digits_toDigits (n : Nat) : Digits (Nat.toDigits 10 n) := fun _ member =>
  Nat.isDigit_of_mem_toDigits (by decide) (by decide) member

theorem digits_zeros (n : Nat) : Digits (List.replicate n '0') := by
  intro c member
  rw [(List.mem_replicate.mp member).2]
  rfl

theorem Digits.append {high low : List Char} (first : Digits high) (second : Digits low) :
    Digits (high ++ low) := by
  intro c member
  exact (List.mem_append.mp member).elim (first c) (second c)

/-- A row of digits is what is left without trailing zeros, and these zeros. -/
theorem exists_trailing_zeros (row : List Char) :
    ∃ n, row = (row.reverse.dropWhile (· = '0')).reverse ++ List.replicate n '0' := by
  refine ⟨(row.reverse.takeWhile (· = '0')).length, ?_⟩
  have zeros : row.reverse.takeWhile (· = '0') =
      List.replicate (row.reverse.takeWhile (· = '0')).length '0' := by
    apply List.eq_replicate_of_mem
    intro c member
    have zero := List.all_eq_true.mp (List.all_takeWhile (p := (· = '0'))) c member
    simpa using zero
  rw [← List.reverse_replicate, ← zeros, ← List.reverse_append, List.takeWhile_append_dropWhile,
    List.reverse_reverse]

/-- The significant digits of a coefficient lack only trailing zeros. -/
theorem significantDigits_spec (coefficient : Nat) :
    Digits (significantDigits coefficient) ∧ significantDigits coefficient ≠ [] ∧
      ∃ n, coefficient = digitsValue (significantDigits coefficient) * 10 ^ n ∧
        decimalLength coefficient = (significantDigits coefficient).length + n := by
  obtain ⟨n, split⟩ := exists_trailing_zeros (Nat.toDigits 10 coefficient)
  have value := digitsValue_toDigits coefficient
  have row := digits_toDigits coefficient
  rw [significantDigits]
  split
  case h_1 none =>
    rw [none, List.nil_append] at split
    rw [split, digitsValue_zeros] at value
    subst value
    exact ⟨by simp [Digits], by simp, 0, rfl, rfl⟩
  case h_2 kept some =>
    refine ⟨fun c member => row c ?_, some, n, ?_, ?_⟩
    · rw [split]
      exact List.mem_append_left _ member
    · conv => lhs; rw [← value, split, digitsValue_append_zeros]
    · have lengths := congrArg List.length split
      rwa [List.length_append, List.length_replicate] at lengths

/-! ### Layouts -/

variable {digits : List Char} {point : Int}

/-- A text spells the number that these digits denote behind a point at the given place. -/
def SpellsDigits (text digits : List Char) (point : Int) : Prop :=
  ∃ coefficient exponent, SpellsMagnitude text coefficient exponent ∧
    (coefficient : ℚ) * 10 ^ exponent = digitsValue digits * 10 ^ (point - digits.length)

/-- Parts of a literal spell the number if they hold the digits, followed by zeros that the place of
the point makes up for. -/
theorem spellsDigits_of_parts {mantissa whole fraction tail : List Char} {power : Int} (zeros : Nat)
    (parts : Mantissa mantissa whole fraction) (exponent : Exponent tail power)
    (kept : whole ++ fraction = digits ++ List.replicate zeros '0' ∨
      digitsValue (whole ++ fraction) = digitsValue digits ∧ zeros = 0)
    (places : power - fraction.length + zeros = point - digits.length) :
    SpellsDigits (mantissa ++ tail) digits point := by
  refine ⟨_, _, ⟨mantissa, whole, fraction, tail, power, rfl, parts, exponent, rfl, rfl⟩, ?_⟩
  have value : digitsValue (whole ++ fraction) = digitsValue digits * 10 ^ zeros := by
    rcases kept with same | ⟨same, rfl⟩
    · rw [same, digitsValue_append_zeros]
    · rw [same, Nat.pow_zero, Nat.mul_one]
  rw [value, ← places, Nat.cast_mul, Nat.cast_pow, zpow_add₀ (by norm_num), zpow_natCast]
  push_cast
  ring

theorem spells_positionalText (row : Digits digits) (some : digits ≠ []) (marks : Bool) :
    SpellsDigits (positionalText marks digits point) digits point := by
  rw [positionalText]
  split
  case isTrue small =>
    obtain ⟨n, rfl⟩ : ∃ n : Nat, point = -n := ⟨(-point).toNat, by omega⟩
    rw [neg_neg, Int.toNat_natCast]
    have zeros : Digits (List.replicate n '0' ++ digits) := (digits_zeros n).append row
    have value : digitsValue (['0'] ++ (List.replicate n '0' ++ digits)) = digitsValue digits :=
      (digitsValue_zeros_append 1 _).trans (digitsValue_zeros_append n digits)
    have places : (0 : Int) - (List.replicate n '0' ++ digits).length + (0 : Nat) =
        -n - digits.length := by
      rw [List.length_append, List.length_replicate]
      omega
    simpa using spellsDigits_of_parts 0 (.point (digits_zeros 1) zeros (.inl (by simp))) .none
      (.inr ⟨value, rfl⟩) places
  case isFalse large =>
    obtain ⟨n, rfl⟩ : ∃ n : Nat, point = n := ⟨point.toNat, by omega⟩
    rw [Int.toNat_natCast]
    split
    case isTrue whole =>
      have filled : Digits (digits ++ List.replicate (n - digits.length) '0') :=
        row.append (digits_zeros _)
      have nonempty : digits ++ List.replicate (n - digits.length) '0' ≠ [] := by simp [some]
      cases marks with
      | false =>
        exact spellsDigits_of_parts (n - digits.length) (.whole filled nonempty) .none
          (.inl (List.append_nil _)) (by simp; omega)
      | true =>
        have zeros : digits ++ List.replicate (n - digits.length) '0' ++ ['0'] =
            digits ++ List.replicate (n - digits.length + 1) '0' := by
          rw [List.append_assoc, ← List.replicate_succ']
        simpa using spellsDigits_of_parts (n - digits.length + 1)
          (.point filled (digits_zeros 1) (.inl nonempty)) .none (.inl zeros)
          (by simp; omega)
    case isFalse inside =>
      have before : Digits (digits.take n) := fun c member => row c (List.mem_of_mem_take member)
      have after : Digits (digits.drop n) := fun c member => row c (List.mem_of_mem_drop member)
      have leading : digits.take n ≠ [] := by
        simp only [ne_eq, List.take_eq_nil_iff, not_or]
        exact ⟨by omega, some⟩
      simpa using spellsDigits_of_parts 0 (.point before after (.inl leading)) .none
        (.inr ⟨congrArg _ (List.take_append_drop n digits), rfl⟩)
        (by rw [List.length_drop]; push_cast; omega)

theorem exponent_integerText (n : Int) : Exponent ('e' :: integerText n) n := by
  have mark : 'e' = 'e' ∨ 'e' = 'E' := .inl rfl
  have row := digits_toDigits n.natAbs
  have value := digitsValue_toDigits n.natAbs
  rw [integerText]
  split
  case isTrue negative =>
    have part := Exponent.marked mark .minus row Nat.toDigits_ne_nil
    rw [if_pos rfl, value] at part
    rwa [show -(n.natAbs : Int) = n by omega] at part
  case isFalse positive =>
    have part := Exponent.marked mark .none row Nat.toDigits_ne_nil
    rw [if_neg Bool.false_ne_true, value] at part
    rwa [show (n.natAbs : Int) = n by omega] at part

theorem spells_exponentText (row : Digits digits) (some : digits ≠ []) :
    SpellsDigits (exponentText digits point) digits point := by
  obtain ⟨c, rest, rfl⟩ := List.exists_cons_of_ne_nil some
  have first : Digits [c] := by simpa [Digits] using row c List.mem_cons_self
  have following : Digits rest := fun c member => row c (List.mem_cons_of_mem _ member)
  have exponent := exponent_integerText (point - 1)
  by_cases none : rest = []
  · subst none
    exact spellsDigits_of_parts 0 (.whole first (by simp)) exponent (.inr ⟨rfl, rfl⟩) (by simp)
  · have places : point - 1 - rest.length + (0 : Nat) = point - (c :: rest).length := by
      rw [List.length_cons]
      omega
    have parts := spellsDigits_of_parts 0 (.point first following (.inl (by simp))) exponent
      (.inr ⟨rfl, rfl⟩) places
    simpa [exponentText, none] using parts

/-- **The text of a decimal spells the decimal.** -/
theorem spells_layOut (layout : Layout) (d : Decimal) :
    ∃ d', Spells (d.layOut layout) d' ∧ d'.negative = d.negative ∧ d'.magnitude = d.magnitude := by
  obtain ⟨row, some, zeros, coefficient, length⟩ := significantDigits_spec d.coefficient
  have spelled : SpellsDigits
      (if layout.isPositional (d.exponent + decimalLength d.coefficient - 1) then
        positionalText layout.marksIntegers (significantDigits d.coefficient)
          (d.exponent + decimalLength d.coefficient)
      else exponentText (significantDigits d.coefficient) (d.exponent + decimalLength d.coefficient))
      (significantDigits d.coefficient) (d.exponent + decimalLength d.coefficient) := by
    split
    · exact spells_positionalText row some _
    · exact spells_exponentText row some
  obtain ⟨n, exponent, body, value⟩ := spelled
  refine ⟨⟨d.negative, n, exponent⟩, ?_, rfl, ?_⟩
  · rw [layOut]
    cases sign : d.negative with
    | true => exact ⟨['-'], _, rfl, .minus, body⟩
    | false => exact ⟨[], _, rfl, .none, body⟩
  · have places : d.exponent + decimalLength d.coefficient -
        (significantDigits d.coefficient).length = d.exponent + zeros := by
      omega
    rw [places, zpow_add₀ (by norm_num), zpow_natCast] at value
    conv => rhs; rw [magnitude, coefficient]
    rw [magnitude, value]
    push_cast
    ring

end DualEval.Decimal
