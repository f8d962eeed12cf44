import DualEval.Proofs.Residual

/-!
# Equal expressions and equal diagnostics

Numerical equality is no congruence: the two zeros are equal, and their quotients are opposite infinities.
Sums, differences and products of equal data are equal unless they are NaNs, and so are quotients by other
divisors than zero; a quotient by zero also depends on the signs.  Hence equal expressions have equal
records, while the diagnostics expected for them are equal exactly if no operator's result is a NaN and no
zero divisor changes the sign of a quotient (`DualEval.Expression.equalities`).
-/

namespace DualEval

namespace Datum

variable {F : Format} {x x' y y' : Datum F}

/-- Numbers are equal if they have the same magnitude and, unless this is zero, the same sign. -/
theorem equals_iff_code : x.equals y = true ↔
    x.isNaN = false ∧ x.code = y.code ∧ (x.code = 0 ∨ x.negative = y.negative) := by
  constructor
  · intro same
    have number : x.isNaN = false := by
      simp only [equals, Bool.and_eq_true, Bool.not_eq_true'] at same
      exact same.1.1
    refine ⟨number, code_eq_of_equals same, (Nat.eq_zero_or_pos x.code).imp_right fun nonzero => ?_⟩
    rw [← eq_of_equals same nonzero]
  · rintro ⟨number, code, sign⟩
    have number' : y.isNaN = false := by rwa [isNaN, ← code]
    have key : x.orderKey = y.orderKey := by
      rw [orderKey, orderKey, ← code]
      rcases sign with none | sign
      · simp [none]
      · rw [sign]
    simp [equals, number, number', key]

theorem equals_self_iff : x.equals x = true ↔ x.isNaN = false := by
  simp [equals_iff_code]

theorem equals_neg (same : x.equals y = true) : x.neg.equals y.neg = true := by
  obtain ⟨number, code, sign⟩ := equals_iff_code.mp same
  exact equals_iff_code.mpr ⟨number, code, sign.imp_right (congrArg Bool.not)⟩

/-- Data of one magnitude have the same absolute value. -/
theorem abs_congr (same : x.code = y.code) : x.abs = y.abs := eq_of_fields rfl same

theorem finite_or_isInfinite (known : x.isNaN = false) : x.isFinite = true ∨ x.isInfinite = true := by
  rcases x.classes with ⟨nan, _, _⟩ | ⟨_, infinite, _⟩ | ⟨_, _, finite⟩
  · rw [nan] at known
    contradiction
  · exact .inr infinite
  · exact .inl finite

theorem not_number_quietNaN : ¬ (quietNaN F).isNaN = false := by
  rw [Bool.not_eq_false]
  exact decide_eq_true F.infinityCode_lt_quietNaNCode

theorem isInfinite_eq_false_of_code (none : x.code = 0) : x.isInfinite = false := by
  rw [isInfinite, none]
  exact decide_eq_false F.infinityCode_pos.ne

/-! ### Sums and differences -/

theorem add_of_isInfinite_left (infinite : x.isInfinite = true) (finite : y.isFinite = true) :
    x.add y = x := by
  have number : x.isNaN = false := isNaN_eq_false_iff.mpr (of_decide_eq_true infinite).le
  simp [add, number, infinite, isNaN_of_isFinite finite, isInfinite_of_isFinite finite]

theorem add_of_isInfinite_right (finite : x.isFinite = true) (infinite : y.isInfinite = true) :
    x.add y = y := by
  have number : y.isNaN = false := isNaN_eq_false_iff.mpr (of_decide_eq_true infinite).le
  simp [add, number, infinite, isNaN_of_isFinite finite, isInfinite_of_isFinite finite]

section Sums

variable (left : x.equals x' = true) (right : y.equals y' = true)
include left right

/-- Sums of equal data are equal, unless they are NaNs. -/
theorem add_equals (number : (x.add y).isNaN = false) : (x.add y).equals (x'.add y') = true := by
  obtain ⟨known, code, _⟩ := equals_iff_code.mp left
  obtain ⟨known', code', _⟩ := equals_iff_code.mp right
  have bounded (finite : x.isFinite = true) : x'.isFinite = true := by rwa [isFinite, ← code]
  have bounded' (finite : y.isFinite = true) : y'.isFinite = true := by rwa [isFinite, ← code']
  -- an infinity equals only itself, and a finite term beside it plays no part
  have same (infinite : x.isInfinite = true) : x' = x :=
    (eq_of_equals left (of_decide_eq_true infinite ▸ F.infinityCode_pos)).symm
  have same' (infinite : y.isInfinite = true) : y' = y :=
    (eq_of_equals right (of_decide_eq_true infinite ▸ F.infinityCode_pos)).symm
  rcases finite_or_isInfinite known with finite | infinite <;>
    rcases finite_or_isInfinite known' with finite' | infinite'
  · have value := (equals_iff finite (bounded finite)).mp left
    have value' := (equals_iff finite' (bounded' finite')).mp right
    rw [add_of_isFinite finite finite', add_of_isFinite (bounded finite) (bounded' finite'), ← value,
      ← value']
    split
    · exact equals_iff_code.mpr ⟨isNaN_eq_false_iff.mpr (Nat.zero_le _), rfl, .inl rfl⟩
    · exact equals_self_iff.mpr (isNaN_ofUnits ..)
  · rw [same' infinite', add_of_isInfinite_right finite infinite',
      add_of_isInfinite_right (bounded finite) infinite']
    exact equals_self_iff.mpr known'
  · rw [same infinite, add_of_isInfinite_left infinite finite',
      add_of_isInfinite_left infinite (bounded' finite')]
    exact equals_self_iff.mpr known
  · rw [same infinite, same' infinite']
    exact equals_self_iff.mpr number

theorem sub_equals (number : (x.sub y).isNaN = false) : (x.sub y).equals (x'.sub y') = true :=
  add_equals left (equals_neg right) number

end Sums

/-! ### Products -/

/-- Signs play no part in the magnitude of a product. -/
theorem code_mul_abs (x y : Datum F) : (x.mul y).code = (x.abs.mul y.abs).code := by
  simp only [mul, apply_ite code]
  rfl

theorem code_mul_congr (left : x.code = x'.code) (right : y.code = y'.code) :
    (x.mul y).code = (x'.mul y').code := by
  rw [code_mul_abs, code_mul_abs x', abs_congr left, abs_congr right]

theorem negative_mul (number : (x.mul y).isNaN = false) :
    (x.mul y).negative = (x.negative != y.negative) := by
  unfold mul at number ⊢
  split_ifs at number ⊢
  · exact absurd number not_number_quietNaN
  · exact absurd number not_number_quietNaN
  · rfl
  · rfl

/-- A product with a zero is a zero, unless it is a NaN. -/
theorem code_mul_eq_zero (number : (x.mul y).isNaN = false) (nothing : x.code = 0 ∨ y.code = 0) :
    (x.mul y).code = 0 := by
  have zero : (x.isZero || y.isZero) = true := by simpa [isZero] using nothing
  have units : x.units * y.units = 0 := by
    rw [Nat.mul_eq_zero, units_eq_zero_iff, units_eq_zero_iff]
    exact nothing
  simp only [mul, zero, units] at number ⊢
  split_ifs at number ⊢
  · exact absurd number not_number_quietNaN
  · exact absurd number not_number_quietNaN
  · exact F.nearest_eq_zero F.one_pos

/-- Products of equal data are equal, unless they are NaNs. -/
theorem mul_equals (left : x.equals x' = true) (right : y.equals y' = true)
    (number : (x.mul y).isNaN = false) : (x.mul y).equals (x'.mul y') = true := by
  obtain ⟨_, code, sign⟩ := equals_iff_code.mp left
  obtain ⟨_, code', sign'⟩ := equals_iff_code.mp right
  have magnitude := code_mul_congr code code'
  have number' : (x'.mul y').isNaN = false := by rwa [isNaN, ← magnitude]
  refine equals_iff_code.mpr ⟨number, magnitude, ?_⟩
  by_cases nothing : x.code = 0 ∨ y.code = 0
  · exact .inl (code_mul_eq_zero number nothing)
  · rw [not_or] at nothing
    rw [negative_mul number, negative_mul number', sign.resolve_left nothing.1,
      sign'.resolve_left nothing.2]
    exact .inr rfl

/-! ### Quotients -/

/-- Signs play no part in the magnitude of a quotient. -/
theorem code_div_abs (x y : Datum F) : (x.div y).code = (x.abs.div y.abs).code := by
  simp only [div, apply_ite code]
  rfl

theorem code_div_congr (left : x.code = x'.code) (right : y.code = y'.code) :
    (x.div y).code = (x'.div y').code := by
  rw [code_div_abs, code_div_abs x', abs_congr left, abs_congr right]

theorem negative_div (number : (x.div y).isNaN = false) :
    (x.div y).negative = (x.negative != y.negative) := by
  unfold div at number ⊢
  split_ifs at number ⊢
  · exact absurd number not_number_quietNaN
  · exact absurd number not_number_quietNaN
  · rfl
  · rfl
  · exact absurd number not_number_quietNaN
  · rfl
  · rfl

/-- A quotient of zero is a zero, unless it is a NaN. -/
theorem code_div_eq_zero (number : (x.div y).isNaN = false) (nothing : x.code = 0) :
    (x.div y).code = 0 := by
  have zero : x.isZero = true := decide_eq_true nothing
  have units : x.units = 0 := units_eq_zero_iff.mpr nothing
  simp only [div, zero, units, isInfinite_eq_false_of_code nothing, Bool.false_eq_true, if_false,
    if_true, Nat.zero_mul] at number ⊢
  split_ifs at number ⊢ with _ _ proper
  · exact absurd number not_number_quietNaN
  · rfl
  · exact absurd number not_number_quietNaN
  · have divisor : 0 < y.units := by
      rw [Nat.pos_iff_ne_zero, Ne, units_eq_zero_iff]
      exact of_decide_eq_false (eq_false_of_ne_true proper)
    exact F.nearest_eq_zero divisor

/-- A quotient by zero is an infinity, unless it is a NaN. -/
theorem code_div_zero (number : (x.div y).isNaN = false) (nothing : y.code = 0) :
    (x.div y).code = F.infinityCode := by
  have zero : y.isZero = true := decide_eq_true nothing
  simp only [div, zero, isInfinite_eq_false_of_code nothing, Bool.false_eq_true, if_false,
    if_true] at number ⊢
  split_ifs at number ⊢
  · exact absurd number not_number_quietNaN
  · rfl
  · exact absurd number not_number_quietNaN
  · rfl

/-- Quotients of equal data are equal, unless they are NaNs or a zero divisor makes them infinities of
different signs. -/
theorem div_equals_iff (left : x.equals x' = true) (right : y.equals y' = true)
    (number : (x.div y).isNaN = false) : (x.div y).equals (x'.div y') = true ↔
      y.isZero = false ∨ (x.negative != y.negative) = (x'.negative != y'.negative) := by
  obtain ⟨_, code, sign⟩ := equals_iff_code.mp left
  obtain ⟨_, code', sign'⟩ := equals_iff_code.mp right
  have magnitude := code_div_congr code code'
  have number' : (x'.div y').isNaN = false := by rwa [isNaN, ← magnitude]
  rw [equals_iff_code, negative_div number, negative_div number', isZero, decide_eq_false_iff_not]
  simp only [number, magnitude, true_and]
  by_cases nothing : y.code = 0
  · have infinite : (x'.div y').code ≠ 0 := by
      rw [code_div_zero number' (code' ▸ nothing)]
      exact F.infinityCode_pos.ne'
    simp [infinite, nothing]
  · refine iff_of_true ?_ (.inl nothing)
    by_cases zero : x.code = 0
    · exact .inl (code_div_eq_zero number' (code ▸ zero))
    · rw [sign.resolve_left zero, sign'.resolve_left nothing]
      exact .inr rfl

end Datum

namespace Expression

variable {l r : Expression}

theorem tagDatum_equals_iff {operator operator' : Operator} :
    operator.tagDatum.equals operator'.tagDatum = true ↔ operator = operator' := by
  cases operator <;> cases operator' <;> decide

/-- Expressions are equal if their records are. -/
theorem equals_ofExpression :
    (Record.ofExpression l).equals (Record.ofExpression r) = true ↔ l.equals r = true := by
  simp only [Record.equals, Record.ofExpression, equals, Bool.and_eq_true, tagDatum_equals_iff,
    decide_eq_true_eq]

/-- The slots beyond the record and the results of the operators repeat some of these, or are zero. -/
theorem equals_expected_iff : (Diagnostics.expected l).equals (Diagnostics.expected r) = true ↔
    (Record.ofExpression l).equals (Record.ofExpression r) = true ∧
      ∀ operator : Operator,
        (operator.apply l.left l.right).equals (operator.apply r.left r.right) = true := by
  have nothing : Binary32.zero.equals Binary32.zero = true := by decide
  simp only [Diagnostics.equals, Diagnostics.expected, Diagnostics.build, Diagnostics.toList,
    Vector.toList_mk, List.zip_cons_cons, List.zip_nil_left, List.all_cons, List.all_nil, Record.equals,
    Record.ofExpression, Bool.and_eq_true, nothing, and_true]
  constructor
  · rintro ⟨tag, reserved, left, right, sum, difference, product, quotient, _, _⟩
    refine ⟨⟨⟨⟨tag, reserved⟩, left⟩, right⟩, fun operator => ?_⟩
    cases operator with
    | add => exact sum
    | subtract => exact difference
    | multiply => exact product
    | divide => exact quotient
  · rintro ⟨⟨⟨⟨tag, reserved⟩, left⟩, right⟩, results⟩
    have value : l.value.equals r.value = true := by
      rw [value, value, ← tagDatum_equals_iff.mp tag]
      exact results l.operator
    exact ⟨tag, reserved, left, right, results .add, results .subtract, results .multiply,
      results .divide, value, tag⟩

/-- The operators' results are equal for equal operands if none is a NaN and no zero divisor makes
quotients of different signs. -/
theorem apply_equals_iff (left : l.left.equals r.left = true) (right : l.right.equals r.right = true) :
    (∀ operator : Operator,
      (operator.apply l.left l.right).equals (operator.apply r.left r.right) = true) ↔
    (∀ operator : Operator, (operator.apply l.left l.right).isNaN = false) ∧
      (l.right.isZero = false ∨
        (l.left.negative != l.right.negative) = (r.left.negative != r.right.negative)) := by
  constructor
  · intro results
    have number (operator : Operator) : (operator.apply l.left l.right).isNaN = false :=
      (Datum.equals_iff_code.mp (results operator)).1
    exact ⟨number, (Datum.div_equals_iff left right (number .divide)).mp (results .divide)⟩
  · rintro ⟨number, signs⟩ operator
    cases operator with
    | add => exact Datum.add_equals left right (number .add)
    | subtract => exact Datum.sub_equals left right (number .subtract)
    | multiply => exact Datum.mul_equals left right (number .multiply)
    | divide => exact (Datum.div_equals_iff left right (number .divide)).mpr signs

/-- **How the equalities of expressions, of records and of diagnostics relate.**  Expressions are equal
exactly if their records are.  The diagnostics expected for them are equal exactly if moreover no operator
makes a NaN of the operands, and the divisor is not zero or the signs of the operands, multiplied, are the
same in both. -/
theorem equalities (l r : Expression) :
    (l.equals r = true ↔ (Record.ofExpression l).equals (Record.ofExpression r) = true) ∧
    ((Diagnostics.expected l).equals (Diagnostics.expected r) = true ↔
      l.equals r = true ∧ (∀ x ∈ lanes l.left l.right, x.isNaN = false) ∧
        (l.right.isZero = false ∨
          (l.left.negative != l.right.negative) = (r.left.negative != r.right.negative))) := by
  refine ⟨equals_ofExpression.symm, ?_⟩
  have every : (∀ x ∈ lanes l.left l.right, x.isNaN = false) ↔
      ∀ operator : Operator, (operator.apply l.left l.right).isNaN = false := by
    simp [lanes, Operator.mem_all]
  rw [equals_expected_iff, equals_ofExpression, every]
  apply and_congr_right
  intro same
  simp only [equals, Bool.and_eq_true] at same
  exact apply_equals_iff same.1.2 same.2

/-- One over zero and one over minus zero are equal expressions with opposite values. -/
example :
    let l : Expression := { operator := .divide, left := Binary32.one, right := Binary32.zero }
    let r : Expression := { operator := .divide, left := Binary32.one, right := Binary32.zero.neg }
    l.equals r = true ∧ (Diagnostics.expected l).equals (Diagnostics.expected r) = false := by
  decide +kernel

end Expression

end DualEval
