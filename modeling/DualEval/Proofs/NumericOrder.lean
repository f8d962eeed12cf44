import DualEval.Proofs.Rounding

/-!
# The order of finite data

Comparisons look at order keys, that is at codes.  For finite data this is the order of the values
the data denote, since codes are ordered like the magnitudes they name; equality of keys is
equality of values.
-/

namespace DualEval.Datum

variable {F : Format}

theorem isNaN_of_isFinite {x : Datum F} (finite : x.isFinite = true) : x.isNaN = false := by
  rcases x.classes with ⟨_, _, other⟩ | ⟨_, _, other⟩ | ⟨number, _, _⟩
  · rw [finite] at other; contradiction
  · rw [finite] at other; contradiction
  · exact number

theorem isInfinite_of_isFinite {x : Datum F} (finite : x.isFinite = true) :
    x.isInfinite = false := by
  rcases x.classes with ⟨_, _, other⟩ | ⟨_, _, other⟩ | ⟨_, bounded, _⟩
  · rw [finite] at other; contradiction
  · rw [finite] at other; contradiction
  · exact bounded

theorem isFinite_iff {x : Datum F} : x.isFinite = true ↔ x.code < F.infinityCode := by
  rw [isFinite, decide_eq_true_eq]

/-- Order keys compare like values. -/
theorem orderKey_lt_iff (x y : Datum F) : x.orderKey < y.orderKey ↔ x.signedUnits < y.signedUnits := by
  have forward : x.code < y.code ↔ x.units < y.units := F.units_strictMono.lt_iff_lt.symm
  have backward : y.code < x.code ↔ y.units < x.units := F.units_strictMono.lt_iff_lt.symm
  have left : 0 < x.code ↔ 0 < x.units := by
    simpa [units] using (F.units_strictMono.lt_iff_lt (a := 0) (b := x.code)).symm
  have right : 0 < y.code ↔ 0 < y.units := by
    simpa [units] using (F.units_strictMono.lt_iff_lt (a := 0) (b := y.code)).symm
  unfold orderKey signedUnits
  split <;> split <;> omega

theorem orderKey_eq_iff (x y : Datum F) : x.orderKey = y.orderKey ↔ x.signedUnits = y.signedUnits := by
  have above := orderKey_lt_iff x y
  have below := orderKey_lt_iff y x
  omega

/-- Finite data are numerically equal exactly when their values are. -/
theorem equals_iff {x y : Datum F} (left : x.isFinite = true) (right : y.isFinite = true) :
    x.equals y = true ↔ x.signedUnits = y.signedUnits := by
  rw [← orderKey_eq_iff]
  simp [equals, isNaN_of_isFinite left, isNaN_of_isFinite right]

/-- Finite data are related by `below` exactly when their values are. -/
theorem below_iff {x y : Datum F} (left : x.isFinite = true) (right : y.isFinite = true) :
    x.below y = true ↔ x.signedUnits < y.signedUnits := by
  rw [← orderKey_lt_iff]
  simp [below, isNaN_of_isFinite left, isNaN_of_isFinite right]

/-- The infinities lie beyond all finite data, on the side of their sign. -/
theorem below_infinite {x y : Datum F} (finite : x.isFinite = true) (unbounded : y.isInfinite = true) :
    (y.negative = false → x.below y = true) ∧ (y.negative = true → y.below x = true) := by
  have number : y.isNaN = false := by
    rcases y.classes with ⟨_, other, _⟩ | ⟨number, _, _⟩ | ⟨number, _, _⟩
    · rw [unbounded] at other; contradiction
    · exact number
    · exact number
  have bound := isFinite_iff.mp finite
  have top : y.code = F.infinityCode := by simpa [isInfinite] using unbounded
  have known := isNaN_of_isFinite finite
  have between : -(F.infinityCode : Int) < x.orderKey ∧ x.orderKey < F.infinityCode := by
    unfold orderKey
    split <;> omega
  constructor
  · intro positive
    have key : y.orderKey = F.infinityCode := by simp [orderKey, positive, top]
    simp [below, known, number, key, between.2]
  · intro negative
    have key : y.orderKey = -F.infinityCode := by simp [orderKey, negative, top]
    simp [below, known, number, key, between.1]

/-- Equal data have the same magnitude. -/
theorem code_eq_of_equals {x y : Datum F} (same : x.equals y = true) : x.code = y.code := by
  simp only [equals, Bool.and_eq_true, beq_iff_eq] at same
  have keys := same.2
  unfold orderKey at keys
  split at keys <;> split at keys <;> omega

/-- A sum of finite data rounds the exact sum. -/
theorem add_of_isFinite {x y : Datum F} (left : x.isFinite = true) (right : y.isFinite = true) :
    x.add y = if x.signedUnits + y.signedUnits = 0 then zero F (x.negative && y.negative)
      else ofUnits F (x.signedUnits + y.signedUnits < 0) (x.signedUnits + y.signedUnits).natAbs 1 := by
  simp only [add, isNaN_of_isFinite left, isNaN_of_isFinite right, isInfinite_of_isFinite left,
    isInfinite_of_isFinite right, Bool.or_self, Bool.false_eq_true, if_false]

end DualEval.Datum
