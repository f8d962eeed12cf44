import DualEval.Proofs.ParsePrecedence
import DualEval.Proofs.RoundingError

/-!
# Operands in range

A literal denotes one number, and its operand is the datum nearest to that number, with the sign of the
literal.  The literal is refused where the nearest datum is an infinity, which is from half a place
above the greatest finite number on, and where it is a zero although the number is none, which is down
from half the least positive datum (`DualEval.Operand.read_literal`).
-/

namespace DualEval

namespace Decimal

variable {F : Format} {d : Decimal}

/-- The number that a decimal denotes. -/
def number (d : Decimal) : ℚ := signed d.negative d.magnitude

theorem magnitude_nonneg (d : Decimal) : 0 ≤ d.magnitude :=
  mul_nonneg d.coefficient.cast_nonneg (zpow_nonneg (by norm_num) _)

theorem abs_number (d : Decimal) : |d.number| = d.magnitude := by
  unfold number signed
  split
  · rw [abs_neg, abs_of_nonneg d.magnitude_nonneg]
  · exact abs_of_nonneg d.magnitude_nonneg

theorem number_eq_zero_iff : d.number = 0 ↔ d.coefficient = 0 := by
  have power : (10 : ℚ) ^ d.exponent ≠ 0 := zpow_ne_zero _ (by norm_num)
  rw [← abs_eq_zero, abs_number, magnitude, mul_eq_zero_iff_right power, Nat.cast_eq_zero]

theorem magnitude_mul_one (F : Format) (d : Decimal) :
    d.magnitude * F.one =
      (F.decimalNum d.coefficient d.exponent : ℚ) / (10 ^ (-d.exponent).toNat : Nat) := by
  rw [magnitude, Format.ten_zpow, Format.decimalNum, Format.one]
  push_cast
  ring

theorem isNearest_code (F : Format) (d : Decimal) :
    F.IsNearest (d.magnitude * F.one) (d.toDatum F).code := by
  have code : (d.toDatum F).code = F.nearest _ _ := F.nearestDecimal_eq_nearest _ _
  rw [magnitude_mul_one, code]
  exact F.isNearest_nearest (Nat.pow_pos (by decide))

/-- Of the data with its sign a decimal is nearest to the one that it is rounded to, and to no other. -/
theorem isNearest_number_iff {x : Datum F} (sign : x.negative = d.negative) :
    x.IsNearest d.number ↔ x = d.toDatum F := by
  have scale := Datum.one_cast_pos (F := F)
  have positive : 0 ≤ d.magnitude * F.one := mul_nonneg d.magnitude_nonneg scale.le
  have shape : d.number = signed x.negative (d.magnitude * F.one / F.one) := by
    rw [number, sign, mul_div_cancel_right₀ _ scale.ne']
  rw [shape, Datum.isNearest_iff positive]
  constructor
  · intro nearest
    exact Datum.eq_of_fields sign (nearest.unique (d.isNearest_code F))
  · rintro rfl
    exact d.isNearest_code F

/-- Half a place above the greatest finite datum overflow begins. -/
theorem isFinite_toDatum_iff (d : Decimal) :
    (d.toDatum binary32).isFinite = true ↔ |d.number| < 2 ^ 128 - 2 ^ 103 := by
  rw [Datum.isFinite_iff, (d.isNearest_code binary32).lt_infinityCode_iff, abs_number,
    mul_lt_mul_iff_left₀ Datum.one_cast_pos]

/-- A decimal of up to half the least positive datum vanishes. -/
theorem isZero_toDatum_iff (d : Decimal) :
    (d.toDatum binary32).isZero = true ↔ |d.number| ≤ 1 / 2 ^ 150 := by
  have unit : binary32.units (0 + 1) = 1 := by decide
  have least : (binary32.units 0 : ℚ) + binary32.units (0 + 1) = 1 := by
    rw [Format.units_zero, unit, Nat.cast_zero, Nat.cast_one, zero_add]
  have zero : (d.toDatum binary32).isZero = true ↔ (d.toDatum binary32).code ≤ 0 := by
    rw [Datum.isZero, decide_eq_true_eq, Nat.le_zero]
  rw [zero, (d.isNearest_code binary32).le_iff binary32.infinityCode_pos, least, abs_number,
    Format.binary32_one, le_div_iff₀ (by positivity)]
  simp only [dvd_zero, and_true]
  rw [← le_iff_lt_or_eq]
  ring_nf

end Decimal

namespace Operand

open Token

variable {letters : List Char} {d : Decimal}

theorem read_of_spells (literal : Decimal.Spells letters d) :
    read letters =
      if (d.toDatum binary32).isFinite = true ∧
          ((d.toDatum binary32).isZero = false ∨ d.number = 0) then
        .ok (d.toDatum binary32)
      else .error (.invalidOperand (String.ofList letters)) := by
  rw [read, read?, Decimal.read?_eq_some_iff.mpr literal, Option.bind_eq_bind, Option.bind_some]
  simp only [Decimal.number_eq_zero_iff, hasNonzeroDigit_eq_false_iff literal]
  split_ifs <;> rfl

/-- An operand that has been read is finite, the nearest datum to its literal, and zero only where the
literal is. -/
theorem Denotes.spec {x : Binary32} (denotes : Denotes letters x) :
    x.isFinite = true ∧ ∃ d, Decimal.Spells letters d ∧ x.negative = d.negative ∧
      x.IsNearest d.number ∧ (x.isZero = true ↔ d.number = 0) := by
  obtain ⟨d, literal, rfl, finite, vanishes⟩ := denotes
  refine ⟨finite, d, literal, rfl, (Decimal.isNearest_number_iff rfl).mpr rfl, ?_⟩
  constructor
  · exact fun zero => Decimal.number_eq_zero_iff.mpr (vanishes zero)
  · intro zero
    rw [Decimal.isZero_toDatum_iff, zero, abs_zero]
    positivity

theorem operands_of_parse {text : String} {e : Expression} (parsed : Expression.parse text = .ok e) :
    ∃ symbol left right, ofText text = [opening, symbol, left, right, closing] ∧
      Denotes left.letters e.left ∧ Denotes right.letters e.right := by
  have judged := Expression.judged_ofTokens (ofText text)
  rw [← Expression.parse, parsed] at judged
  cases judged with
  | @accepted symbol left right _ _ _ flat _ first second =>
    refine ⟨symbol, left, right, ?_, first, second⟩
    rw [flat.single.shape, flat.words]
    rfl

/-- **What a literal is read as.** The datum nearest to the number it denotes, ties to even, with its
sign; the literal is refused with its own text if that is an infinity, or a zero in the place of
another number.  So the operands of a text that is read are finite, and zero for a zero alone. -/
theorem read_literal :
    (∀ letters d, Decimal.Spells letters d → ∃ x : Binary32,
      (∀ y : Binary32, y.negative = d.negative ∧ y.IsNearest d.number ↔ y = x) ∧
      (x.isFinite = true ↔ |d.number| < 2 ^ 128 - 2 ^ 103) ∧
      (x.isZero = true ↔ |d.number| ≤ 1 / 2 ^ 150) ∧
      read letters = if x.isFinite = true ∧ (x.isZero = false ∨ d.number = 0) then .ok x
        else .error (.invalidOperand (String.ofList letters))) ∧
    ∀ text e, Expression.parse text = .ok e → ∃ symbol left right,
      ofText text = [opening, symbol, left, right, closing] ∧
      ∀ word ∈ [(left, e.left), (right, e.right)], word.2.isFinite = true ∧
        ∃ d, Decimal.Spells word.1.letters d ∧ word.2.negative = d.negative ∧
          word.2.IsNearest d.number ∧ (word.2.isZero = true ↔ d.number = 0) := by
  constructor
  · intro letters d literal
    refine ⟨d.toDatum binary32, fun y => ?_, d.isFinite_toDatum_iff, d.isZero_toDatum_iff,
      read_of_spells literal⟩
    constructor
    · rintro ⟨sign, nearest⟩
      exact (Decimal.isNearest_number_iff sign).mp nearest
    · rintro rfl
      exact ⟨rfl, (Decimal.isNearest_number_iff rfl).mpr rfl⟩
  · intro text e parsed
    obtain ⟨symbol, left, right, tokens, first, second⟩ := operands_of_parse parsed
    refine ⟨symbol, left, right, tokens, fun word member => ?_⟩
    rcases List.mem_pair.mp member with rfl | rfl
    · exact first.spec
    · exact second.spec

/-- Half a place above the greatest finite datum is out of range, one less is not. -/
example : read "340282356779733661637539395458142568448".toList =
      .error (.invalidOperand "340282356779733661637539395458142568448") ∧
    read "340282356779733661637539395458142568447".toList = .ok (.ofBits 0x7f7fffff) := by
  decide +kernel

end Operand

end DualEval
