import DualEval.Natural

/-!
# Binary interchange formats

A format is described by its two field widths.  A magnitude is named by its *code*, the word
formed by the exponent field followed by the fraction field; codes are ordered like the magnitudes
they name, and the codes of finite magnitudes are exactly those below `infinityCode`.

Every finite magnitude is a whole number of `2 ^ -unitPlaces`, the least positive magnitude of the
format, and `units` is that number.  All arithmetic is therefore exact arithmetic on natural
numbers followed by one call of `nearest`, which answers the code closest to a quotient of units
and prefers the even code when two are equally close.
-/

namespace DualEval

/-- The field widths of a binary interchange format. -/
structure Format where
  fractionBits : Nat
  exponentBits : Nat
  fractionBits_pos : 0 < fractionBits := by decide
  two_le_exponentBits : 2 ≤ exponentBits := by decide
deriving DecidableEq

namespace Format

variable (F : Format)

/-- The number of fractions that share one exponent field. -/
def fractionCount : Nat := 2 ^ F.fractionBits

/-- The exponent field of infinities and of NaNs, all ones. -/
def exponentLimit : Nat := 2 ^ F.exponentBits - 1

/-- The code of infinity: the largest exponent field over an empty fraction. -/
def infinityCode : Nat := F.exponentLimit * F.fractionCount

/-- The code of the quiet NaN without payload: the leading fraction bit is set. -/
def quietNaNCode : Nat := F.infinityCode + 2 ^ (F.fractionBits - 1)

/-- The number of codes, and the weight of the sign bit in a word. -/
def codeLimit : Nat := 2 ^ (F.exponentBits + F.fractionBits)

/-- One is this power of two many units. -/
def unitPlaces : Nat := 2 ^ (F.exponentBits - 1) - 2 + F.fractionBits

/-- The finite magnitude with this code, counted in units. -/
def units (code : Nat) : Nat :=
  let exponent := code / F.fractionCount
  let fraction := code % F.fractionCount
  if exponent = 0 then fraction else (F.fractionCount + fraction) * 2 ^ (exponent - 1)

/-- The code nearest to a magnitude of `num / den` units.

The magnitude is first brought to a whole number of places in the last position of its binade;
carrying into the next binade is carrying into the exponent field, so no separate renormalization
is needed, and everything from the rounding threshold upward is infinity. -/
def nearest (num den : Nat) : Nat :=
  let scale := (num / den).log2 - F.fractionBits
  min F.infinityCode (scale * F.fractionCount + roundQuotient num (den * 2 ^ scale))

theorem fractionCount_pos : 0 < F.fractionCount := Nat.two_pow_pos _

theorem codeLimit_eq : F.codeLimit = (F.exponentLimit + 1) * F.fractionCount := by
  have : 1 ≤ 2 ^ F.exponentBits := Nat.one_le_two_pow
  rw [codeLimit, exponentLimit, fractionCount, Nat.pow_add, Nat.sub_add_cancel this]

theorem infinityCode_lt_codeLimit : F.infinityCode < F.codeLimit := by
  rw [codeLimit_eq, infinityCode, Nat.succ_mul]
  exact Nat.lt_add_of_pos_right F.fractionCount_pos

theorem nearest_le_infinityCode (num den : Nat) : F.nearest num den ≤ F.infinityCode :=
  Nat.min_le_left _ _

theorem nearest_lt_codeLimit (num den : Nat) : F.nearest num den < F.codeLimit :=
  Nat.lt_of_le_of_lt (F.nearest_le_infinityCode num den) F.infinityCode_lt_codeLimit

theorem quietNaNCode_lt_codeLimit : F.quietNaNCode < F.codeLimit := by
  rw [codeLimit_eq, quietNaNCode, infinityCode, Nat.succ_mul]
  apply Nat.add_lt_add_left
  exact Nat.pow_lt_pow_right (by decide) (Nat.sub_lt F.fractionBits_pos (by decide))

theorem infinityCode_lt_quietNaNCode : F.infinityCode < F.quietNaNCode :=
  Nat.lt_add_of_pos_right (Nat.two_pow_pos _)

theorem infinityCode_pos : 0 < F.infinityCode := by
  apply Nat.mul_pos _ F.fractionCount_pos
  have := Nat.pow_le_pow_right (show 0 < 2 by decide) F.two_le_exponentBits
  have four : 4 = 2 ^ (2 : Nat) := rfl
  rw [exponentLimit]
  omega

end Format

/-- The 32-bit format: one sign bit, eight exponent bits, twenty-three fraction bits. -/
def binary32 : Format := { fractionBits := 23, exponentBits := 8 }

/-- The 64-bit format: one sign bit, eleven exponent bits, fifty-two fraction bits. -/
def binary64 : Format := { fractionBits := 52, exponentBits := 11 }

end DualEval
