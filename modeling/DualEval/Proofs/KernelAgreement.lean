import DualEval.Proofs.Tags
import Mathlib.Data.List.Forall2
import Mathlib.Data.Nat.Bitwise

/-!
# The kernel agrees with the host

On every record the kernel writes what the host expects: its lanes are the host's four operations,
its value is the host's value of the expression that the record stands for, and it marks exactly the
records that the host refuses.  The two sides meet in three places only, the tag, the division by
zero and the selection of the value.
-/

namespace DualEval.Kernel

variable (a b x : Binary32)

/-! ### Division on bits -/

theorem toNat_toBits : x.toBits.toNat = (if x.negative then 2 ^ 31 else 0) + x.code := by
  have bound := x.code_lt
  rw [Binary32.codeLimit_eq] at bound
  rw [Datum.toBits, UInt32.toNat_ofNat', Binary32.codeLimit_eq]
  apply Nat.mod_eq_of_lt
  split <;> omega

theorem toNat_magnitude : (x.toBits &&& magnitudeMask).toNat = x.code := by
  have bound := x.code_lt
  rw [Binary32.codeLimit_eq] at bound
  have mask : magnitudeMask.toNat = 2 ^ 31 - 1 := rfl
  rw [UInt32.toNat_and, mask, Nat.and_two_pow_sub_one_eq_mod, toNat_toBits]
  split <;> omega

theorem toBits_and_signMask : x.toBits &&& signMask = if x.negative then signMask else 0 := by
  have bound : x.code < 2 ^ 31 := by
    have limit := x.code_lt
    rwa [Binary32.codeLimit_eq] at limit
  have mask : signMask.toNat = 2 ^ 31 := rfl
  have lead : (2 ^ 31 + x.code).testBit 31 = true := by
    rw [Nat.testBit_two_pow_add_eq, Nat.testBit_lt_two_pow bound]
    rfl
  apply UInt32.toNat.inj
  rw [UInt32.toNat_and, mask, Nat.and_two_pow, toNat_toBits]
  cases x.negative with
  | false => simp [Nat.testBit_lt_two_pow bound]
  | true =>
    rw [if_pos rfl, lead]
    rfl

theorem isNaNBits_toBits : isNaNBits x.toBits = x.isNaN := by
  have top : infinityBits.toNat = binary32.infinityCode := by decide
  rw [isNaNBits, Datum.isNaN, decide_eq_decide, UInt32.lt_iff_toNat_lt, toNat_magnitude, top]

theorem magnitude_eq_zero_iff : x.toBits &&& magnitudeMask = 0 ↔ x.code = 0 := by
  rw [← toNat_magnitude, ← UInt32.toNat_inj]
  rfl

/-- The signs of the operands combine on the bits as they do in a quotient. -/
theorem infinity_of_signs :
    Binary32.ofBits ((a.toBits ^^^ b.toBits) &&& signMask ||| infinityBits) =
      Datum.infinity binary32 (a.negative != b.negative) := by
  have split : (a.toBits ^^^ b.toBits) &&& signMask =
      (a.toBits &&& signMask) ^^^ (b.toBits &&& signMask) := by
    apply UInt32.toNat.inj
    simp only [UInt32.toNat_and, UInt32.toNat_xor, Nat.and_xor_distrib_right]
  rw [split, toBits_and_signMask, toBits_and_signMask]
  cases a.negative <;> cases b.negative <;> decide

theorem ofBits_quietNaNBits : Binary32.ofBits quietNaNBits = Datum.quietNaN binary32 := by
  decide

/-- Division with the zero divisors settled on the bits is division. -/
theorem divide_eq_div : divide a b = a.div b := by
  by_cases divisor : b.code = 0
  · have finite : b.isNaN = false ∧ b.isInfinite = false ∧ b.isZero = true := by
      have positive := binary32.infinityCode_pos
      simp [Datum.isNaN, Datum.isInfinite, Datum.isZero, divisor, positive.ne]
    obtain ⟨number, bounded, nothing⟩ := finite
    simp only [divide, (magnitude_eq_zero_iff b).mpr divisor, ne_eq, not_true, if_false,
      isNaNBits_toBits, magnitude_eq_zero_iff, ofBits_quietNaNBits, infinity_of_signs, Datum.div, number, bounded,
      nothing, Bool.or_false]
    rcases a.classes with ⟨nan, _, _⟩ | ⟨known, infinite, _⟩ | ⟨known, other, _⟩
    · simp [nan]
    · have large : a.code ≠ 0 := by
        have top : a.code = binary32.infinityCode := by simpa [Datum.isInfinite] using infinite
        rw [top]
        exact binary32.infinityCode_pos.ne'
      simp [known, infinite, large]
    · simp [known, other, Datum.isZero]
  · have nonzero : b.toBits &&& magnitudeMask ≠ 0 := mt (magnitude_eq_zero_iff b).mp divisor
    rw [divide, if_pos nonzero]

/-! ### Whole runs -/

variable (record : Record)

/-- The value is one of the host's four results, selected by the tag, or the quiet NaN. -/
theorem value_run : (run record).value =
    match Operator.ofTag? record.tag with
    | some operator => operator.apply record.left record.right
    | none => Datum.quietNaN binary32 := by
  simp only [run, decodeTag_eq, divide_eq_div]
  cases Operator.ofTag? record.tag with
  | none => exact ofBits_quietNaNBits
  | some operator => cases operator <;> rfl

/-- The slots hold the record, the host's four results, the value and the tag as decoded. -/
theorem diagnostics_run : (run record).diagnostics =
    Diagnostics.build record (fun operator => operator.apply record.left record.right)
      (run record).value (Datum.ofInt binary32 (decodeTag record.tag)) := by
  simp only [run, Diagnostics.build, divide_eq_div]
  rfl

/-- For the record of an expression the kernel writes what the host expects. -/
theorem run_ofExpression (e : Expression) :
    run (Record.ofExpression e) = ⟨e.value, Diagnostics.expected e⟩ := by
  have named : Operator.ofTag? (Record.ofExpression e).tag = some e.operator :=
    Operator.ofTag?_tagDatum e.operator
  have value : (run (Record.ofExpression e)).value = e.value := by
    rw [value_run, named]
    rfl
  have diagnostics : (run (Record.ofExpression e)).diagnostics = Diagnostics.expected e := by
    rw [diagnostics_run, decodeTag_eq, named, value]
    rfl
  rw [← value, ← diagnostics]

/-- Sixteen bytes are a record of four words. -/
theorem exists_record (bytes : Vector UInt8 16) :
    ∃ record : Record, Record.ofBytes bytes.toList = .ok record ∧
      Binary32.listOfBytes bytes.toList = record.toList := by
  have full : bytes.toList.length = Record.byteCount := by simp [Record.byteCount]
  have count := Binary32.length_listOfBytes bytes.toList
  rw [full, Record.byteCount] at count
  match words : Binary32.listOfBytes bytes.toList, count with
  | [tag, reserved, left, right], _ =>
    refine ⟨{ tag, reserved, left, right }, ?_, rfl⟩
    rw [Record.ofBytes, if_pos full, words]

/-- **One run agrees with the host.** On any sixteen bytes, read as four words, a run answers: it
repeats the words, computes the host's four results, repeats its value and leaves the last six
slots zero.  If the host reads an expression from the bytes, the value is the host's value of it and
the decoded tag is its operator's; if the host refuses the bytes, the value is a NaN and the decoded
tag is `-1`. -/
theorem run_agrees_with_host (bytes : Vector UInt8 16) :
    ∃ (tag reserved a b : Binary32) (output : Output),
      Binary32.listOfBytes bytes.toList = [tag, reserved, a, b] ∧
      runBytes bytes.toList = .ok output ∧
      output.diagnostics.toList.take 4 = [tag, reserved, a, b] ∧
      List.Forall₂ Datum.Alike output.diagnostics.lanes (Expression.lanes a b) ∧
      output.diagnostics.selected = output.value ∧
      output.diagnostics.toList.drop 10 = List.replicate 6 Binary32.zero ∧
      match (Record.ofBytes bytes.toList).bind Record.toExpression with
      | .ok e => output.value.Alike e.value ∧
          output.diagnostics.decodedTag = Datum.ofInt binary32 e.operator.tag
      | .error _ => output.value.isNaN = true ∧
          output.diagnostics.decodedTag = Datum.ofInt binary32 (-1) := by
  obtain ⟨record, read, words⟩ := exists_record bytes
  have ran : runBytes bytes.toList = .ok (run record) := by rw [runBytes, read]; rfl
  refine ⟨record.tag, record.reserved, record.left, record.right, run record, words, ran, rfl, ?_,
    rfl, rfl, ?_⟩
  · rw [diagnostics_run]
    exact List.forall₂_same.mpr fun lane _ => Datum.Alike.refl lane
  · rw [diagnostics_run, read]
    change match record.toExpression with
      | .ok e => (run record).value.Alike e.value ∧
          Datum.ofInt binary32 (decodeTag record.tag) = Datum.ofInt binary32 e.operator.tag
      | .error _ => (run record).value.isNaN = true ∧
          Datum.ofInt binary32 (decodeTag record.tag) = Datum.ofInt binary32 (-1)
    rw [Record.toExpression, decodeTag_eq, value_run]
    cases Operator.ofTag? record.tag with
    | some operator => exact ⟨Datum.Alike.refl _, rfl⟩
    | none => exact ⟨rfl, rfl⟩

end DualEval.Kernel
