import DualEval.Proofs.RoundingError
import DualEval.Proofs.SelfAgreement

/-!
# The law of the tolerance

Two finite data should agree if they are no further apart than the tolerance allows, relative to the
expected one and absolutely below magnitude one.  The comparison rounds both sides.  Rounding is
monotone, so data that are close enough always agree; and data that agree are close enough up to the
errors of the two roundings (`DualEval.Parity.tolerance_law`).  A NaN agrees with NaNs alone, and an
infinity with itself alone.
-/

namespace DualEval

namespace Datum

variable {F : Format} {x y : Datum F}

theorem abs_number (x : Datum F) : |x.number| = x.units / F.one := by
  have nonnegative : (0 : ℚ) ≤ x.units / F.one := div_nonneg x.units.cast_nonneg one_cast_pos.le
  rw [number_eq, signed]
  split
  · rw [abs_neg, abs_of_nonneg nonnegative]
  · exact abs_of_nonneg nonnegative

theorem abs_number_sub (x y : Datum F) :
    |x.number - y.number| = ((x.signedUnits - y.signedUnits).natAbs : ℚ) / F.one := by
  rw [number, number, ← sub_div, abs_div, abs_of_pos one_cast_pos, Nat.cast_natAbs]
  push_cast
  rfl

/-- Equal data other than the two zeros are the same. -/
theorem eq_of_equals (same : x.equals y = true) (nonzero : 0 < x.code) : x = y := by
  have code := code_eq_of_equals same
  simp only [equals, Bool.and_eq_true, beq_iff_eq] at same
  have keys := same.2
  rw [orderKey, orderKey, ← code] at keys
  refine eq_of_fields ?_ code
  cases left : x.negative <;> cases right : y.negative <;>
    simp only [left, right, if_true, Bool.false_eq_true, if_false, reduceCtorEq] at keys ⊢ <;> omega

/-- A difference has the code nearest to the exact difference. -/
theorem code_sub (left : x.isFinite = true) (right : y.isFinite = true) :
    (x.sub y).code = F.nearest (x.signedUnits - y.signedUnits).natAbs 1 := by
  rw [sub, code_add (y := y.neg) left right, signedUnits_neg, Int.sub_eq_add_neg]

section NotBelowZero

variable (least : (zero F false).atMost x = true)
include least

theorem number_of_zero_atMost : x.number = x.units / F.one := by
  rw [number_eq, signed]
  rcases (zero_atMost_iff.mp least).2 with positive | none
  · rw [positive]
    rfl
  · rw [units_eq_zero_iff.mpr none]
    simp

theorem orderKey_of_zero_atMost : x.orderKey = x.code := by
  rw [orderKey]
  rcases (zero_atMost_iff.mp least).2 with positive | none
  · rw [positive]
    rfl
  · simp [none]

/-- Data that are not below zero compare like their codes. -/
theorem atMost_iff_code_le (least' : (zero F false).atMost y = true) :
    x.atMost y = true ↔ x.code ≤ y.code := by
  have known := (zero_atMost_iff.mp least).1
  have known' := (zero_atMost_iff.mp least').1
  rw [atMost_iff, orderKey_of_zero_atMost least, orderKey_of_zero_atMost least', Nat.cast_le]
  exact ⟨fun order => order.2.2, fun order => ⟨known, known', order⟩⟩

end NotBelowZero

end Datum

namespace Parity

variable {e a t : Binary32}

/-! ### The two sides of the comparison -/

section Finite

variable (expected : e.isFinite = true) (actual : a.isFinite = true)

include expected actual in
/-- A distance has the code nearest to the exact distance. -/
theorem code_distance :
    (distance e a).code = binary32.nearest (e.signedUnits - a.signedUnits).natAbs 1 :=
  Datum.code_sub expected actual

include expected actual in
theorem zero_atMost_distance : Binary32.zero.atMost (distance e a) = true := by
  refine Datum.zero_atMost_iff.mpr ⟨Datum.isNaN_eq_false_iff.mpr ?_, .inl rfl⟩
  rw [code_distance expected actual]
  exact binary32.nearest_le_infinityCode _ _

include expected actual in
/-- Finite data agree, within a tolerance that is not below zero, if the code of their distance does
not exceed that of the allowance. -/
theorem agree_iff_code_le (least : Binary32.zero.atMost t = true) :
    agree e a t = true ↔ (distance e a).code ≤ (allowance e t).code := by
  rw [agree_of_isFinite expected actual]
  exact Datum.atMost_iff_code_le (zero_atMost_distance expected actual)
    ((zero_atMost_allowance_iff expected).mpr least)

include expected in
/-- An allowance has the code nearest to the exact allowance. -/
theorem code_allowance (bounded : t.isFinite = true) :
    (allowance e t).code = binary32.nearest (t.units * max e.units binary32.one) binary32.one := by
  obtain ⟨finite, positive, factor⟩ := Datum.max_one_spec binary32_holdsIntegers expected
  rw [allowance, Binary32.one, Datum.mul_of_factor finite positive bounded, factor]
  rfl

include expected in
/-- An infinite tolerance allows any distance. -/
theorem code_allowance_of_isInfinite (infinite : t.isInfinite = true) :
    (allowance e t).code = binary32.infinityCode := by
  obtain ⟨finite, positive, factor⟩ := Datum.max_one_spec binary32_holdsIntegers expected
  have nonzero : 0 < (e.abs.max (Datum.ofInt binary32 1)).units :=
    factor ▸ lt_max_of_lt_right binary32.one_pos
  rw [allowance, Binary32.one, Datum.mul_factor_of_isInfinite finite positive infinite nonzero]
  rfl

end Finite

/-- The exact allowance, counted in units. -/
theorem allowed_eq (least : Binary32.zero.atMost t = true) (e : Binary32) :
    t.number * max |e.number| 1 =
      ((t.units * max e.units binary32.one : Nat) : ℚ) / binary32.one / binary32.one := by
  have scale := Datum.one_cast_pos (F := binary32)
  have relative : max |e.number| 1 = (max e.units binary32.one : Nat) / binary32.one := by
    rw [Datum.abs_number, Nat.cast_max, ← max_div_div_right scale.le, div_self scale.ne']
  rw [relative, Datum.number_of_zero_atMost least]
  push_cast
  ring

/-! ### Close data agree, and data that agree are close -/

/-- Exact distances and allowances compare like the codes nearest to them. -/
theorem nearest_le_of_le {gap num : Nat} (close : (gap : ℚ) ≤ num / binary32.one) :
    binary32.nearest gap 1 ≤ binary32.nearest num binary32.one :=
  (binary32.isNearest_nearest_whole gap).mono (binary32.isNearest_nearest binary32.one_pos) close

/-- A whole number whose code does not exceed that of an allowance exceeds the allowance by no more
than the errors of the two roundings. -/
theorem le_of_nearest_le {gap num : Nat}
    (finite : binary32.nearest num binary32.one < binary32.infinityCode)
    (le : binary32.nearest gap 1 ≤ binary32.nearest num binary32.one) :
    (gap : ℚ) ≤ num / binary32.one * (1 + 1 / 2 ^ 22) + 1 := by
  have own := Format.nearest_whole_error (lt_of_le_of_lt le finite)
  have other := Format.nearest_error binary32.one_pos finite
  have between : (binary32.units (binary32.nearest gap 1) : ℚ) ≤
      binary32.units (binary32.nearest num binary32.one) := by
    exact_mod_cast binary32.units_strictMono.monotone le
  have nonnegative : (0 : ℚ) ≤ num / binary32.one :=
    div_nonneg num.cast_nonneg Datum.one_cast_pos.le
  rw [Format.binary32_fractionCount, abs_sub_le_iff] at own other
  linarith [own.1, other.2]

/-- An infinite tolerance stands beyond the greatest finite number. -/
theorem number_of_isInfinite (least : Binary32.zero.atMost t = true) (infinite : t.isInfinite = true) :
    t.number = 2 ^ 128 := by
  have top : t.code = binary32.infinityCode := of_decide_eq_true infinite
  have units : t.units = 2 ^ 128 * 2 ^ 149 := by
    rw [Datum.units, top]
    decide
  rw [Datum.number_of_zero_atMost least, units, Format.binary32_one]
  norm_num

section Close

variable (expected : e.isFinite = true) (actual : a.isFinite = true)
  (least : Binary32.zero.atMost t = true)
include expected actual least

/-- Data no further apart than the tolerance allows agree. -/
theorem agree_of_close
    (close : t.isInfinite = true ∨ |e.number - a.number| ≤ t.number * max |e.number| 1) :
    agree e a t = true := by
  have scale := Datum.one_cast_pos (F := binary32)
  rw [agree_iff_code_le expected actual least, code_distance expected actual]
  rcases t.classes with ⟨nan, _, _⟩ | ⟨_, infinite, _⟩ | ⟨_, limited, bounded⟩
  · rw [(Datum.zero_atMost_iff.mp least).1] at nan
    contradiction
  · rw [code_allowance_of_isInfinite expected infinite]
    exact binary32.nearest_le_infinityCode _ _
  · have within := close.resolve_left (Bool.not_eq_true _ ▸ limited)
    rw [Datum.abs_number_sub, allowed_eq least, div_le_div_iff_of_pos_right scale] at within
    rw [code_allowance expected bounded]
    exact nearest_le_of_le within

/-- Data that agree are no further apart than the tolerance allows, up to errors of rounding, unless
the allowance overflows. -/
theorem close_of_agree (limited : t.number * max |e.number| 1 ≤ 2 ^ 128 - 2 ^ 104)
    (agreed : agree e a t = true) :
    |e.number - a.number| ≤ t.number * max |e.number| 1 * (1 + 1 / 2 ^ 22) + 1 / 2 ^ 149 := by
  have scale := Datum.one_cast_pos (F := binary32)
  rw [agree_iff_code_le expected actual least, code_distance expected actual] at agreed
  rcases t.classes with ⟨nan, _, _⟩ | ⟨_, infinite, _⟩ | ⟨_, _, bounded⟩
  · rw [(Datum.zero_atMost_iff.mp least).1] at nan
    contradiction
  · -- an infinite tolerance is excluded by the limit on the allowance
    have factor : (1 : ℚ) ≤ max |e.number| 1 := le_max_right _ _
    rw [number_of_isInfinite least infinite] at limited
    linarith
  · rw [code_allowance expected bounded] at agreed
    rw [allowed_eq least] at limited ⊢
    have below : ((t.units * max e.units binary32.one : Nat) : ℚ) / binary32.one <
        (2 ^ 128 - 2 ^ 103) * binary32.one := by
      rw [div_le_iff₀ scale] at limited
      exact lt_of_le_of_lt limited (mul_lt_mul_of_pos_right (by norm_num) scale)
    have finite := (binary32.isNearest_nearest binary32.one_pos).lt_infinityCode_iff.mpr below
    have gap := le_of_nearest_le finite agreed
    rw [Datum.abs_number_sub]
    refine (div_le_div_of_nonneg_right gap scale.le).trans_eq ?_
    rw [add_div, mul_div_right_comm, Format.binary32_one]

end Close

/-- A NaN agrees with NaNs alone. -/
theorem agree_iff_of_isNaN (nan : e.isNaN = true ∨ a.isNaN = true) :
    agree e a t = true ↔ e.isNaN = true ∧ a.isNaN = true := by
  rw [agree, if_pos (by simpa using nan), Bool.and_eq_true]

/-- An infinity agrees with what equals it. -/
theorem agree_of_isInfinite (expected : e.isNaN = false) (actual : a.isNaN = false)
    (infinite : e.isInfinite = true ∨ a.isInfinite = true) : agree e a t = e.equals a := by
  rw [agree, if_neg (by simp [expected, actual]), if_pos (by simpa using infinite)]

/-- An infinity agrees with itself alone. -/
theorem agree_iff_of_isInfinite (expected : e.isNaN = false) (actual : a.isNaN = false)
    (infinite : e.isInfinite = true ∨ a.isInfinite = true) : agree e a t = true ↔ e = a := by
  rw [agree_of_isInfinite expected actual infinite]
  constructor
  · intro same
    have code := Datum.code_eq_of_equals same
    apply Datum.eq_of_equals same
    rcases infinite with top | top
    · exact of_decide_eq_true top ▸ binary32.infinityCode_pos
    · exact code ▸ of_decide_eq_true top ▸ binary32.infinityCode_pos
  · rintro rfl
    simp [Datum.equals, expected]

/-- **The law of the tolerance.** Of two finite data the actual one agrees within a tolerance that is
not below zero if it is no further from the expected one than the tolerance times the larger of one and
the expected magnitude, which an infinite tolerance puts no bound to; and where that product does not
exceed the greatest finite number, `2 ^ 128 - 2 ^ 104`, it agrees only if it is no further off up to a
relative error of `2 ^ -22` and the least positive number.  A NaN agrees with NaNs alone and an infinity
with itself alone, under every tolerance. -/
theorem tolerance_law (e a t : Binary32) :
    (e.isFinite = true → a.isFinite = true → Binary32.zero.atMost t = true →
      (t.isInfinite = true ∨ |e.number - a.number| ≤ t.number * max |e.number| 1 →
        agree e a t = true) ∧
      (t.number * max |e.number| 1 ≤ 2 ^ 128 - 2 ^ 104 → agree e a t = true →
        |e.number - a.number| ≤ t.number * max |e.number| 1 * (1 + 1 / 2 ^ 22) + 1 / 2 ^ 149)) ∧
    (e.isNaN = true ∨ a.isNaN = true →
      (agree e a t = true ↔ e.isNaN = true ∧ a.isNaN = true)) ∧
    (e.isNaN = false → a.isNaN = false → e.isInfinite = true ∨ a.isInfinite = true →
      (agree e a t = true ↔ e = a)) := by
  refine ⟨fun expected actual least => ⟨?_, ?_⟩, agree_iff_of_isNaN, agree_iff_of_isInfinite⟩
  · exact agree_of_close expected actual least
  · exact close_of_agree expected actual least

/-- The errors of rounding can be needed: three, times a tolerance one place above one, is rounded up,
and a datum just that far off agrees. -/
theorem agrees_beyond_exact_allowance :
    let e : Binary32 := .ofBits 0x40400000
    let a : Binary32 := .ofBits 0xb5000000
    let t : Binary32 := .ofBits 0x3f800001
    agree e a t = true ∧ t.number * max |e.number| 1 < |e.number - a.number| ∧
      |e.number - a.number| ≤ t.number * max |e.number| 1 * (1 + 1 / 2 ^ 22) + 1 / 2 ^ 149 := by
  intro e a t
  have expected : e.number = 3 := by
    rw [Datum.number, show e.signedUnits = 3 * 2 ^ 149 by decide, Format.binary32_one]
    norm_num
  have actual : a.number = -1 / 2 ^ 21 := by
    rw [Datum.number, show a.signedUnits = -2 ^ 128 by decide, Format.binary32_one]
    norm_num
  have allowed : t.number = 1 + 1 / 2 ^ 23 := by
    rw [Datum.number, show t.signedUnits = 2 ^ 149 + 2 ^ 126 by decide, Format.binary32_one]
    norm_num
  have agreed : agree e a t = true := by decide +kernel
  have limited : t.number * max |e.number| 1 ≤ 2 ^ 128 - 2 ^ 104 := by
    rw [expected, allowed]
    norm_num
  have close := ((tolerance_law e a t).1 (by decide) (by decide) (by decide)).2 limited agreed
  refine ⟨agreed, ?_, close⟩
  rw [expected, actual, allowed]
  norm_num

end Parity

end DualEval
