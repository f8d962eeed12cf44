import DualEval.Proofs.ToleranceLaw

/-!
# The order of tolerances

The allowance is a rounded product of the tolerance, so it grows with the tolerance: rounding is
monotone, through the subnormal numbers and up to infinity, and on both sides of zero.  Data that agree
within one tolerance therefore agree within every larger one (`DualEval.Parity.agree_mono`).
-/

namespace DualEval

namespace Datum

variable {F : Format} {x y z : Datum F}

theorem atMost_trans (first : x.atMost y = true) (second : y.atMost z = true) :
    x.atMost z = true := by
  obtain ⟨known, _, below⟩ := atMost_iff.mp first
  obtain ⟨_, known', above⟩ := atMost_iff.mp second
  exact atMost_iff.mpr ⟨known, known', below.trans above⟩

section Factor

variable (finite : z.isFinite = true) (positive : z.negative = false)
include finite positive

/-- Products with a positive factor are ordered like the magnitudes multiplied. -/
theorem code_mul_factor_mono (nonzero : 0 < z.units) (known : x.isNaN = false)
    (known' : y.isNaN = false) (le : x.code ≤ y.code) : (x.mul z).code ≤ (y.mul z).code := by
  rcases y.classes with ⟨nan, _, _⟩ | ⟨_, infinite, _⟩ | ⟨_, _, bounded⟩
  · rw [nan] at known'
    contradiction
  · -- the product of the infinity is an infinity, which no number is above
    rw [mul_factor_of_isInfinite finite positive infinite nonzero]
    apply isNaN_eq_false_iff.mp
    rw [isNaN_mul_factor finite positive nonzero, known]
  · have below : x.isFinite = true := isFinite_iff.mpr (le.trans_lt (isFinite_iff.mp bounded))
    rw [mul_of_factor finite positive bounded, mul_of_factor finite positive below]
    apply F.nearest_mono F.one_pos
    exact Nat.mul_le_mul_right _ (F.units_strictMono.monotone le)

/-- Products with a finite factor of at least one are ordered like the data multiplied. -/
theorem mul_factor_mono (large : F.one ≤ z.units) (le : x.atMost y = true) :
    (x.mul z).atMost (y.mul z) = true := by
  have nonzero : 0 < z.units := lt_of_lt_of_le F.one_pos large
  obtain ⟨known, known', keys⟩ := atMost_iff.mp le
  have up := code_mul_factor_mono finite positive nonzero known known'
  have down := code_mul_factor_mono finite positive nonzero known' known
  have left := code_mul_factor_eq_zero_iff finite positive known large
  have right := code_mul_factor_eq_zero_iff finite positive known' large
  rw [atMost_iff, isNaN_mul_factor finite positive nonzero, isNaN_mul_factor finite positive nonzero,
    orderKey, orderKey, negative_mul_factor finite positive known nonzero,
    negative_mul_factor finite positive known' nonzero]
  refine ⟨known, known', ?_⟩
  rw [orderKey, orderKey] at keys
  -- a datum above zero is at most one below it only if both are zeros, and so are their products then
  generalize x.negative = sign, y.negative = sign' at keys ⊢
  cases sign <;> cases sign' <;>
    simp only [if_true, Bool.false_eq_true, if_false] at keys ⊢ <;> omega

end Factor

end Datum

namespace Parity

variable {e a t t' : Binary32}

theorem allowance_mono (expected : e.isFinite = true) (raised : t.atMost t' = true) :
    (allowance e t).atMost (allowance e t') = true := by
  obtain ⟨finite, positive, factor⟩ := Datum.max_one_spec binary32_holdsIntegers expected
  exact Datum.mul_factor_mono finite positive (factor ▸ le_max_right _ _) raised

/-- Data that agree within a tolerance agree within every larger one. -/
theorem agree_mono (raised : t.atMost t' = true) (agreed : agree e a t = true) :
    agree e a t' = true := by
  rcases Datum.classes_pair e a with ⟨expected, actual⟩ | nan | ⟨known, known', infinite⟩
  · rw [agree_of_isFinite expected actual] at agreed ⊢
    exact Datum.atMost_trans agreed (allowance_mono expected raised)
  · rwa [agree_iff_of_isNaN nan] at agreed ⊢
  · rwa [agree_of_isInfinite known known' infinite] at agreed ⊢

/-- A larger tolerance leaves some of the slots that differ, in order. -/
theorem mismatches_sublist (raised : t.atMost t' = true) (e : Expression) (actual : Diagnostics) :
    (mismatches e actual t').Sublist (mismatches e actual t) := by
  unfold mismatches
  apply List.Sublist.map
  apply List.monotone_filter_right
  rintro ⟨⟨expected, found⟩, slot⟩ differs
  simp only [Bool.not_eq_true'] at differs ⊢
  by_contra agreed
  rw [agree_mono raised (eq_true_of_ne_false agreed)] at differs
  contradiction

end Parity

end DualEval
