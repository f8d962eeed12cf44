import DualEval.Proofs.ToleranceOrder

/-!
# Residuals

The residual of two data behaves as a distance.  Between finite data it is their rounded distance, which
vanishes only for equal ones, since differences are whole numbers of units and none of these is rounded to
zero.  Data that are the same number, or both none, have residual zero, and all others with a NaN or an
infinity among them have an infinite one (`DualEval.Parity.residual_is_distance`).
-/

namespace DualEval

namespace Datum

variable {F : Format} {x y : Datum F}

/-- A magnitude is a number without a sign. -/
structure IsMagnitude (x : Datum F) : Prop where
  number : x.isNaN = false
  positive : x.negative = false

theorem IsMagnitude.least (magnitude : x.IsMagnitude) : (zero F false).atMost x = true :=
  zero_atMost_iff.mpr ⟨magnitude.number, .inl magnitude.positive⟩

theorem IsMagnitude.eq_of_code (first : x.IsMagnitude) (second : y.IsMagnitude)
    (same : x.code = y.code) : x = y :=
  eq_of_fields (first.positive.trans second.positive.symm) same

/-- Data coincide if they are the same number, or both none. -/
def Coincide (x y : Datum F) : Prop := x.equals y = true ∨ (x.isNaN = true ∧ y.isNaN = true)

theorem equals_comm (x y : Datum F) : x.equals y = y.equals x := by
  rw [equals, equals, Bool.and_comm (!x.isNaN), Bool.beq_comm]

theorem coincide_comm : x.Coincide y ↔ y.Coincide x := by
  rw [Coincide, Coincide, equals_comm, and_comm]

theorem coincide_iff_equals (known : x.isNaN = false) : x.Coincide y ↔ x.equals y = true := by
  simp [Coincide, known]

theorem coincide_iff_of_isNaN (nan : x.isNaN = true ∨ y.isNaN = true) :
    x.Coincide y ↔ x.isNaN = true ∧ y.isNaN = true := by
  apply or_iff_right
  rcases nan with left | right
  · simp [equals, left]
  · simp [equals, right]

end Datum

namespace Parity

variable {e a t : Binary32}

section Finite

variable (expected : e.isFinite = true) (actual : a.isFinite = true)
include expected actual

theorem distance_comm : distance e a = distance a e := by
  have magnitude : (e.signedUnits - a.signedUnits).natAbs = (a.signedUnits - e.signedUnits).natAbs := by
    omega
  refine Datum.eq_of_fields rfl ?_
  rw [code_distance expected actual, code_distance actual expected, magnitude]

/-- A distance vanishes for equal data only. -/
theorem code_distance_eq_zero_iff : (distance e a).code = 0 ↔ e.Coincide a := by
  have cancels := Datum.add_equals_zero_iff (y := a.neg) expected actual
  rw [Datum.equals_zero_iff, Datum.signedUnits_neg, add_neg_eq_zero] at cancels
  rw [Datum.coincide_iff_equals (Datum.isNaN_of_isFinite expected),
    Datum.equals_iff expected actual]
  exact cancels

end Finite

/-- Without any tolerance nothing is allowed. -/
theorem code_allowance_zero (expected : e.isFinite = true) :
    (allowance e Binary32.zero).code = 0 := by
  rw [code_allowance expected (by decide), show Binary32.zero.units = 0 from rfl, Nat.zero_mul]
  exact binary32.nearest_eq_zero binary32.one_pos

/-- Exactly the data that coincide agree without any tolerance. -/
theorem agree_zero_iff (e a : Binary32) : agree e a Binary32.zero = true ↔ e.Coincide a := by
  rcases Datum.classes_pair e a with ⟨expected, actual⟩ | nan | ⟨known, known', infinite⟩
  · rw [agree_iff_code_le expected actual (by decide), code_allowance_zero expected, Nat.le_zero,
      code_distance_eq_zero_iff expected actual]
  · rw [agree_iff_of_isNaN nan, Datum.coincide_iff_of_isNaN nan]
  · rw [agree_of_isInfinite known known' infinite, Datum.coincide_iff_equals known]

/-! ### The three kinds of residuals -/

theorem residual_of_coincide (same : e.Coincide a) : residual e a = Binary32.zero :=
  if_pos ((agree_zero_iff e a).mpr same)

theorem residual_of_isFinite (expected : e.isFinite = true) (actual : a.isFinite = true) :
    residual e a = distance e a := by
  by_cases same : e.Coincide a
  · have vanishes := (code_distance_eq_zero_iff expected actual).mpr same
    rw [residual_of_coincide same]
    exact Datum.eq_of_fields rfl vanishes.symm
  · rw [residual, if_neg ((agree_zero_iff e a).not.mpr same), if_pos (by simp [expected, actual])]

theorem residual_of_apart (apart : ¬ e.Coincide a)
    (unbounded : ¬ (e.isFinite = true ∧ a.isFinite = true)) :
    residual e a = Datum.infinity binary32 false := by
  rw [residual, if_neg ((agree_zero_iff e a).not.mpr apart), if_neg (by simpa using unbounded)]

/-- A residual is a zero, an infinity, or the rounded distance of finite data. -/
theorem residual_cases (e a : Binary32) :
    (e.Coincide a ∧ residual e a = Binary32.zero) ∨
      (e.isFinite = true ∧ a.isFinite = true ∧ residual e a = distance e a) ∨
      (¬ e.Coincide a ∧ residual e a = Datum.infinity binary32 false) := by
  by_cases same : e.Coincide a
  · exact .inl ⟨same, residual_of_coincide same⟩
  · by_cases finite : e.isFinite = true ∧ a.isFinite = true
    · exact .inr (.inl ⟨finite.1, finite.2, residual_of_isFinite finite.1 finite.2⟩)
    · exact .inr (.inr ⟨same, residual_of_apart same finite⟩)

theorem isMagnitude_residual (e a : Binary32) : (residual e a).IsMagnitude := by
  rcases residual_cases e a with ⟨_, zero⟩ | ⟨expected, actual, finite⟩ | ⟨_, infinite⟩
  · rw [zero]
    exact ⟨rfl, rfl⟩
  · rw [finite]
    exact ⟨(Datum.zero_atMost_iff.mp (zero_atMost_distance expected actual)).1, rfl⟩
  · rw [infinite]
    exact ⟨rfl, rfl⟩

theorem residual_comm (e a : Binary32) : residual e a = residual a e := by
  by_cases same : e.Coincide a
  · rw [residual_of_coincide same, residual_of_coincide (Datum.coincide_comm.mp same)]
  · by_cases finite : e.isFinite = true ∧ a.isFinite = true
    · rw [residual_of_isFinite finite.1 finite.2, residual_of_isFinite finite.2 finite.1,
        distance_comm finite.1 finite.2]
    · rw [residual_of_apart same finite, residual_of_apart (Datum.coincide_comm.not.mp same)
        (and_comm.not.mp finite)]

/-- Exactly the data that coincide have residual zero. -/
theorem residual_eq_zero_iff (e a : Binary32) : residual e a = Binary32.zero ↔ e.Coincide a := by
  rcases residual_cases e a with ⟨same, zero⟩ | ⟨expected, actual, finite⟩ | ⟨apart, infinite⟩
  · rw [zero]
    exact iff_of_true rfl same
  · rw [finite, ← code_distance_eq_zero_iff expected actual]
    constructor
    · intro zero
      rw [zero]
      rfl
    · intro none
      exact Datum.eq_of_fields rfl none
  · rw [infinite]
    exact iff_of_false (by decide) apart

/-! ### Residuals and exact distances -/

section Exact

variable (expected : e.isFinite = true) (actual : a.isFinite = true)
include expected actual

/-- From half a place above the greatest finite number on a distance overflows. -/
theorem distance_isFinite_iff :
    (distance e a).isFinite = true ↔ |e.number - a.number| < 2 ^ 128 - 2 ^ 103 := by
  have nearest := binary32.isNearest_nearest_whole (e.signedUnits - a.signedUnits).natAbs
  rw [Datum.isFinite_iff, code_distance expected actual, nearest.lt_infinityCode_iff,
    Datum.abs_number_sub, div_lt_iff₀ Datum.one_cast_pos]

/-- A distance that does not overflow has a relative error of at most half a place. -/
theorem distance_error (bounded : |e.number - a.number| < 2 ^ 128 - 2 ^ 103) :
    |(distance e a).number - (|e.number - a.number|)| ≤ |e.number - a.number| / 2 ^ 24 := by
  have scale := Datum.one_cast_pos (F := binary32)
  have finite := (distance_isFinite_iff expected actual).mpr bounded
  rw [Datum.isFinite_iff, code_distance expected actual] at finite
  have error := Format.nearest_whole_error finite
  rw [Datum.number_of_zero_atMost (zero_atMost_distance expected actual), Datum.abs_number_sub,
    Datum.units, code_distance expected actual, ← sub_div, abs_div, abs_of_pos scale, abs_sub_comm,
    div_right_comm]
  apply div_le_div_of_nonneg_right _ scale.le
  rw [Format.binary32_fractionCount, ← pow_succ'] at error
  exact error

end Exact

/-- Data that disagree within a tolerance that is not below zero do not coincide. -/
theorem not_coincide_of_disagree (least : Binary32.zero.atMost t = true)
    (apart : agree e a t = false) : ¬ e.Coincide a := by
  intro same
  rw [agree_mono least ((agree_zero_iff e a).mpr same)] at apart
  contradiction

/-- **The residual behaves as a distance.** It is a number and not below zero, the same both ways, and
zero for exactly the data that coincide, which are those that agree without any tolerance.  For data that
do not coincide it is infinite if one of them is not finite; between finite data it is infinite from half
a place above the greatest finite number on, and below that within half a place of the exact distance.
Data that disagree within a tolerance that is not below zero never have residual zero. -/
theorem residual_is_distance (e a : Binary32) :
    (residual e a).isNaN = false ∧ (residual e a).negative = false ∧
    residual e a = residual a e ∧
    (residual e a = Binary32.zero ↔ e.Coincide a) ∧
    (agree e a Binary32.zero = true ↔ e.Coincide a) ∧
    (¬ e.Coincide a → ¬ (e.isFinite = true ∧ a.isFinite = true) →
      residual e a = Datum.infinity binary32 false) ∧
    (e.isFinite = true → a.isFinite = true →
      (2 ^ 128 - 2 ^ 103 ≤ |e.number - a.number| → residual e a = Datum.infinity binary32 false) ∧
      (|e.number - a.number| < 2 ^ 128 - 2 ^ 103 → (residual e a).isFinite = true ∧
        |(residual e a).number - (|e.number - a.number|)| ≤ |e.number - a.number| / 2 ^ 24)) ∧
    ∀ t, Binary32.zero.atMost t = true → agree e a t = false → residual e a ≠ Binary32.zero := by
  obtain ⟨number, positive⟩ := isMagnitude_residual e a
  refine ⟨number, positive, residual_comm e a, residual_eq_zero_iff e a, agree_zero_iff e a,
    residual_of_apart, fun expected actual => ?_, fun t least apart => ?_⟩
  · rw [residual_of_isFinite expected actual]
    refine ⟨fun far => ?_, fun near => ?_⟩
    · have limit : (distance e a).code ≤ binary32.infinityCode := by
        rw [code_distance expected actual]
        exact binary32.nearest_le_infinityCode _ _
      have beyond := (distance_isFinite_iff expected actual).not.mpr (not_lt.mpr far)
      rw [Datum.isFinite_iff, not_lt] at beyond
      exact Datum.eq_of_fields rfl (le_antisymm limit beyond)
    · exact ⟨(distance_isFinite_iff expected actual).mpr near, distance_error expected actual near⟩
  · exact (residual_eq_zero_iff e a).not.mpr (not_coincide_of_disagree least apart)

/-- The least normal number and the greatest subnormal one are one unit apart. -/
example : residual (.ofBits 0x00800000) (.ofBits 0x007fffff) = .ofBits 0x00000001 := by
  decide +kernel

end Parity

end DualEval
