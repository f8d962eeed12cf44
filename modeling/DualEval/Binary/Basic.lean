import DualEval.Binary.Format

/-!
# Floating-point data

A datum is a sign and a code of a binary interchange format, so that equality of data is equality
of bits: the two zeros differ, and NaNs with different payloads differ.  The comparisons of
floating-point arithmetic are separate operations (`equals`, `atMost`, `below`) on the order key of
a datum; a NaN is related to nothing by any of them.
-/

namespace DualEval

/-- A floating-point datum of the given format. -/
structure Datum (F : Format) where
  negative : Bool
  code : Nat
  code_lt : code < F.codeLimit
deriving DecidableEq

/-- Data of the 32-bit format. -/
abbrev Binary32 := Datum binary32

/-- Data of the 64-bit format. -/
abbrev Binary64 := Datum binary64

namespace Datum

variable {F : Format}

/-- The two halves of a datum determine it. -/
theorem eq_of_fields {x y : Datum F} (negative : x.negative = y.negative)
    (code : x.code = y.code) : x = y := by
  cases x; cases y; cases negative; cases code; rfl

/-- The magnitude of `num / den` units under a sign, rounded to nearest, ties to even. -/
def ofUnits (F : Format) (negative : Bool) (num den : Nat) : Datum F :=
  ⟨negative, F.nearest num den, F.nearest_lt_codeLimit num den⟩

/-- A zero of either sign. -/
def zero (F : Format) (negative : Bool) : Datum F :=
  ⟨negative, 0, Nat.two_pow_pos _⟩

/-- An infinity of either sign. -/
def infinity (F : Format) (negative : Bool) : Datum F :=
  ⟨negative, F.infinityCode, F.infinityCode_lt_codeLimit⟩

/-- The quiet NaN without payload, the answer of every invalid operation. -/
def quietNaN (F : Format) : Datum F :=
  ⟨false, F.quietNaNCode, F.quietNaNCode_lt_codeLimit⟩

/-- The datum nearest to an integer; zero is positive. -/
def ofInt (F : Format) (n : Int) : Datum F :=
  ofUnits F (n < 0) (n.natAbs * 2 ^ F.unitPlaces) 1

instance : Inhabited (Datum F) := ⟨zero F false⟩

/-- Whether the datum is a NaN of any payload. -/
def isNaN (x : Datum F) : Bool := F.infinityCode < x.code

/-- Whether the datum is one of the two infinities. -/
def isInfinite (x : Datum F) : Bool := x.code = F.infinityCode

/-- Whether the datum is a zero, a subnormal or a normal number. -/
def isFinite (x : Datum F) : Bool := x.code < F.infinityCode

/-- Whether the datum is one of the two zeros. -/
def isZero (x : Datum F) : Bool := x.code = 0

/-- The magnitude of a finite datum, counted in units. -/
def units (x : Datum F) : Nat := F.units x.code

/-- The value of a finite datum, counted in units. -/
def signedUnits (x : Datum F) : Int := if x.negative then -x.units else x.units

/-- Numbers compare like their keys; the two zeros share one. -/
def orderKey (x : Datum F) : Int := if x.negative then -x.code else x.code

/-- Numerical equality: a NaN equals nothing, and the two zeros are equal. -/
def equals (x y : Datum F) : Bool := !x.isNaN && !y.isNaN && x.orderKey == y.orderKey

/-- Numerical `≤`, false of NaNs. -/
def atMost (x y : Datum F) : Bool := !x.isNaN && !y.isNaN && decide (x.orderKey ≤ y.orderKey)

/-- Numerical `<`, false of NaNs. -/
def below (x y : Datum F) : Bool := !x.isNaN && !y.isNaN && decide (x.orderKey < y.orderKey)

/-- Data that no operation tells apart: the same bits, or both NaN. -/
def Alike (x y : Datum F) : Prop := x = y ∨ (x.isNaN = true ∧ y.isNaN = true)

instance (x y : Datum F) : Decidable (x.Alike y) := by unfold Alike; infer_instance

@[refl] theorem Alike.refl (x : Datum F) : x.Alike x := .inl rfl

@[symm] theorem Alike.symm {x y : Datum F} (h : x.Alike y) : y.Alike x :=
  h.elim (fun same => .inl same.symm) fun nan => .inr nan.symm

/-- A datum is a NaN, an infinity or finite, and only one of these. -/
theorem classes (x : Datum F) :
    (x.isNaN = true ∧ x.isInfinite = false ∧ x.isFinite = false) ∨
      (x.isNaN = false ∧ x.isInfinite = true ∧ x.isFinite = false) ∨
      (x.isNaN = false ∧ x.isInfinite = false ∧ x.isFinite = true) := by
  simp only [isNaN, isInfinite, isFinite, decide_eq_true_eq, decide_eq_false_iff_not]
  omega

/-- The bits of a 32-bit datum: the sign bit over the code. -/
def toBits (x : Binary32) : UInt32 :=
  UInt32.ofNat ((if x.negative then binary32.codeLimit else 0) + x.code)

end Datum

namespace Binary32

/-- The datum with the given bits. -/
def ofBits (bits : UInt32) : Binary32 where
  negative := decide (binary32.codeLimit ≤ bits.toNat)
  code := bits.toNat % binary32.codeLimit
  code_lt := Nat.mod_lt _ (Nat.two_pow_pos _)

/-- The sign bit and the thirty-one code bits fill a word. -/
theorem codeLimit_eq : binary32.codeLimit = 2147483648 := by decide

/-- A datum is determined by its bits. -/
theorem ofBits_toBits (x : Binary32) : ofBits x.toBits = x := by
  have bound := x.code_lt
  rw [codeLimit_eq] at bound
  have bits : x.toBits.toNat = (if x.negative then 2147483648 else 0) + x.code := by
    rw [Datum.toBits, UInt32.toNat_ofNat', codeLimit_eq]
    apply Nat.mod_eq_of_lt
    split <;> omega
  apply Datum.eq_of_fields
  · simp only [ofBits, bits, codeLimit_eq]
    cases x.negative with
    | false => simpa using bound
    | true => simp
  · simp only [ofBits, bits, codeLimit_eq]
    split <;> omega

/-- Every word is the bits of a datum. -/
theorem toBits_ofBits (bits : UInt32) : (ofBits bits).toBits = bits := by
  have bound := bits.toNat_lt
  apply UInt32.toNat.inj
  simp only [Datum.toBits, ofBits, UInt32.toNat_ofNat', codeLimit_eq, decide_eq_true_eq]
  split <;> omega

/-- The positive zero. -/
def zero : Binary32 := Datum.zero binary32 false

def one : Binary32 := Datum.ofInt binary32 1

end Binary32

end DualEval
