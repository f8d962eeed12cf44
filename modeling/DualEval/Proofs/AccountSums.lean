import DualEval.Proofs.CleanAccount
import DualEval.Proofs.Residual

/-!
# What an account sums up

An account counts the evaluations of each operator, those that diverged and those with a wrong slot,
keeps the largest residual, and counts the evaluations without an answer.  This determines the account
(`DualEval.Harness.Account.Sums.unique`), whichever order the evaluations came in.  Each evaluation that is
entered keeps it so (`DualEval.Harness.Account.Sums.enter`).
-/

namespace DualEval

/-- Of two magnitudes the one with the larger code is the larger. -/
theorem Datum.IsMagnitude.max_eq {F : Format} {x y : Datum F} (first : x.IsMagnitude)
    (second : y.IsMagnitude) : x.max y = if x.code < y.code then y else x := by
  simp only [max, below, first.number, second.number, orderKey_of_zero_atMost first.least,
    orderKey_of_zero_atMost second.least, Bool.not_false, Bool.true_and, Bool.false_eq_true, if_false,
    decide_eq_true_eq, Nat.cast_lt]

namespace Harness

/-! ### The largest of some data -/

/-- The largest of some data, zero if there are none. -/
structure IsLargest (data : List Binary32) (x : Binary32) : Prop where
  bound : ∀ r ∈ data, r.atMost x = true
  attained : x ∈ data ∨ (data = [] ∧ x = Binary32.zero)

section Largest

variable {data data' : List Binary32} {x y r : Binary32}

theorem IsLargest.perm (largest : IsLargest data x) (same : data.Perm data') : IsLargest data' x where
  bound r member := largest.bound r (same.mem_iff.mpr member)
  attained := by
    rcases largest.attained with member | ⟨rfl, zero⟩
    · exact .inl (same.mem_iff.mp member)
    · exact .inr ⟨same.symm.eq_nil, zero⟩

variable (magnitudes : ∀ r ∈ data, r.IsMagnitude)
include magnitudes

theorem IsLargest.isMagnitude (largest : IsLargest data x) : x.IsMagnitude := by
  rcases largest.attained with member | ⟨_, rfl⟩
  · exact magnitudes x member
  · exact ⟨rfl, rfl⟩

theorem IsLargest.unique (first : IsLargest data x) (second : IsLargest data y) : x = y := by
  have left := first.isMagnitude magnitudes
  have right := second.isMagnitude magnitudes
  apply left.eq_of_code right
  rcases first.attained with member | ⟨none, rfl⟩
  · rcases second.attained with member' | ⟨none, _⟩
    · have below := second.bound x member
      have above := first.bound y member'
      rw [Datum.atMost_iff_code_le left.least right.least] at below
      rw [Datum.atMost_iff_code_le right.least left.least] at above
      exact le_antisymm below above
    · rw [none] at member
      contradiction
  · rcases second.attained with member | ⟨_, rfl⟩
    · rw [none] at member
      contradiction
    · rfl

/-- The larger one of the largest so far and a further datum is the largest of all. -/
theorem IsLargest.snoc (largest : IsLargest data x) (further : r.IsMagnitude) :
    IsLargest (data ++ [r]) (x.max r) := by
  have own := largest.isMagnitude magnitudes
  have reaches {y : Binary32} (magnitude : y.IsMagnitude) :
      r.atMost y = true ↔ r.code ≤ y.code :=
    Datum.atMost_iff_code_le further.least magnitude.least
  rw [own.max_eq further]
  split
  case isTrue larger =>
    have above : x.atMost r = true := (Datum.atMost_iff_code_le own.least further.least).mpr larger.le
    refine ⟨fun s member => ?_, .inl (List.mem_append_right _ (List.mem_singleton_self r))⟩
    rcases List.mem_append.mp member with earlier | last
    · exact Datum.atMost_trans (largest.bound s earlier) above
    · rw [List.mem_singleton.mp last]
      exact (reaches further).mpr le_rfl
  case isFalse smaller =>
    rw [not_lt] at smaller
    refine ⟨fun s member => ?_, ?_⟩
    · rcases List.mem_append.mp member with earlier | last
      · exact largest.bound s earlier
      · rw [List.mem_singleton.mp last]
        exact (reaches own).mpr smaller
    · rcases largest.attained with member | ⟨none, zero⟩
      · exact .inl (List.mem_append_left _ member)
      · -- a first datum that is not larger than zero is zero
        have same : x = r := by
          apply own.eq_of_code further
          rw [zero] at smaller ⊢
          exact (Nat.le_zero.mp smaller).symm
        rw [same]
        exact .inl (List.mem_append_right _ (List.mem_singleton_self r))

end Largest

/-! ### Sums -/

/-- The evaluations of the cases with an operator. -/
def ofOperator (operator : Operator) (results : List Evaluation) : List Evaluation :=
  results.filter fun e => e.expression.operator = operator

/-- The residual of an evaluation that the accelerator answered. -/
def residual? (e : Evaluation) : Option Binary32 :=
  match e.status with
  | .verified output | .diverged output => some (Parity.residual e.reference output.value)
  | .failed _ => none

/-- Whether the accelerator's answer has a slot that is not as expected. -/
def hasWrongSlot (tolerance : Binary32) (e : Evaluation) : Bool :=
  match e.status with
  | .verified output | .diverged output =>
    Parity.mismatches e.expression output.diagnostics tolerance ≠ []
  | .failed _ => false

/-- A tally sums up evaluations. -/
structure Tally.Sums (tolerance : Binary32) (results : List Evaluation) (tally : Tally) : Prop where
  cases : tally.cases = results.length
  diverged : tally.diverged = results.countP fun e => e.status matches .diverged _
  laneMismatches : tally.laneMismatches = results.countP (hasWrongSlot tolerance)
  maxResidual : IsLargest (results.filterMap residual?) tally.maxResidual

/-- An account sums up evaluations, operator by operator. -/
structure Account.Sums (tolerance : Binary32) (results : List Evaluation) (account : Account) :
    Prop where
  tallies : ∀ operator, (account.tally operator).Sums tolerance (ofOperator operator results)
  fallbacks : account.fallbacks = results.countP fun e => e.status matches .failed _

variable {tolerance : Binary32} {results results' : List Evaluation}

theorem isDiverged_eq (e : Evaluation) : isDiverged e = (e.status matches .diverged _) := by
  unfold isDiverged
  cases e.status <;> rfl

theorem isDegraded_eq (e : Evaluation) : e.isDegraded = (e.status matches .failed _) := by
  unfold Evaluation.isDegraded
  cases e.status <;> rfl

theorem hasWrongSlot_eq (tolerance : Binary32) (e : Evaluation) :
    hasWrongSlot tolerance e = decide (wrongSlots tolerance e ≠ []) := by
  unfold hasWrongSlot wrongSlots Evaluation.output?
  cases e.status <;> rfl

theorem residual?_eq (e : Evaluation) :
    residual? e = e.output?.map fun output => Parity.residual e.reference output.value := by
  unfold residual? Evaluation.output?
  cases e.status <;> rfl

theorem isMagnitude_of_mem_residuals :
    ∀ r ∈ results.filterMap residual?, r.IsMagnitude := by
  intro r member
  obtain ⟨e, _, residual⟩ := List.mem_filterMap.mp member
  rw [residual?_eq] at residual
  obtain ⟨output, _, rfl⟩ := Option.map_eq_some_iff.mp residual
  exact Parity.isMagnitude_residual e.reference output.value

theorem ofOperator_snoc (operator : Operator) (results : List Evaluation) (e : Evaluation) :
    ofOperator operator (results ++ [e]) =
      ofOperator operator results ++ if e.expression.operator = operator then [e] else [] := by
  simp [ofOperator, List.filter_append, List.filter_singleton]

/-- Every evaluation is one of some operator. -/
theorem sum_length_ofOperator (results : List Evaluation) :
    (Operator.all.map fun operator => (ofOperator operator results).length).sum = results.length := by
  induction results with
  | nil => rfl
  | cons e results ih =>
    simp only [Operator.all, List.map_cons, List.map_nil, List.sum_cons, List.sum_nil] at ih ⊢
    cases operator : e.expression.operator <;>
      simp [ofOperator, operator] at ih ⊢ <;> omega

namespace Tally

variable {tally tally' : Tally}

theorem sums_new : ({} : Tally).Sums tolerance [] where
  cases := rfl
  diverged := rfl
  laneMismatches := rfl
  maxResidual := ⟨List.forall_mem_nil _, .inr ⟨rfl, rfl⟩⟩

/-- An evaluation that is entered is summed up. -/
theorem Sums.enter (sums : tally.Sums tolerance results) (e : Evaluation) :
    (tally.enter tolerance e).Sums tolerance (results ++ [e]) where
  cases := by simp [Tally.enter, sums.cases]
  diverged := by
    simp only [Tally.enter, sums.diverged, List.countP_append, List.countP_singleton, isDiverged_eq]
  laneMismatches := by
    simp only [Tally.enter, sums.laneMismatches, List.countP_append, List.countP_singleton,
      hasWrongSlot_eq]
    by_cases none : wrongSlots tolerance e = [] <;> simp [none]
  maxResidual := by
    rw [List.filterMap_append]
    have own := residual?_eq e
    cases answered : e.output? with
    | none =>
      rw [answered, Option.map_none] at own
      simpa [Tally.enter, answered, own] using sums.maxResidual
    | some output =>
      rw [answered, Option.map_some] at own
      simp only [Tally.enter, answered, List.filterMap_cons, List.filterMap_nil, own]
      exact sums.maxResidual.snoc isMagnitude_of_mem_residuals (Parity.isMagnitude_residual _ _)

theorem Sums.perm (sums : tally.Sums tolerance results) (same : results.Perm results') :
    tally.Sums tolerance results' where
  cases := sums.cases.trans same.length_eq
  diverged := sums.diverged.trans (same.countP_eq _)
  laneMismatches := sums.laneMismatches.trans (same.countP_eq _)
  maxResidual := sums.maxResidual.perm (same.filterMap _)

theorem Sums.unique (first : tally.Sums tolerance results) (second : tally'.Sums tolerance results) :
    tally = tally' := by
  obtain ⟨cases, maxResidual, diverged, laneMismatches⟩ := tally
  obtain ⟨cases', maxResidual', diverged', laneMismatches'⟩ := tally'
  obtain rfl : cases = cases' := first.cases.trans second.cases.symm
  obtain rfl : diverged = diverged' := first.diverged.trans second.diverged.symm
  obtain rfl : laneMismatches = laneMismatches' :=
    first.laneMismatches.trans second.laneMismatches.symm
  obtain rfl : maxResidual = maxResidual' :=
    first.maxResidual.unique isMagnitude_of_mem_residuals second.maxResidual
  rfl

end Tally

namespace Account

variable {account account' : Account}

theorem sums_new : ({} : Account).Sums tolerance [] where
  tallies := by
    intro operator
    cases operator <;> exact Tally.sums_new
  fallbacks := rfl

/-- An evaluation that is entered is summed up under its operator. -/
theorem Sums.enter (sums : account.Sums tolerance results) (e : Evaluation) :
    (account.enter tolerance e).Sums tolerance (results ++ [e]) where
  tallies := by
    intro operator
    rw [tally_enter, ofOperator_snoc]
    split
    case isTrue own => exact (sums.tallies operator).enter e
    case isFalse other =>
      rw [List.append_nil]
      exact sums.tallies operator
  fallbacks := by
    rw [fallbacks_enter, sums.fallbacks, List.countP_append, List.countP_singleton, isDegraded_eq]

theorem Sums.perm (sums : account.Sums tolerance results) (same : results.Perm results') :
    account.Sums tolerance results' where
  tallies operator := (sums.tallies operator).perm (same.filter _)
  fallbacks := sums.fallbacks.trans (same.countP_eq _)

/-- An account is determined by the evaluations that it sums up. -/
theorem Sums.unique (first : account.Sums tolerance results)
    (second : account'.Sums tolerance results) : account = account' := by
  have tallies operator := (first.tallies operator).unique (second.tallies operator)
  have fallbacks := first.fallbacks.trans second.fallbacks.symm
  obtain ⟨add, subtract, multiply, divide, _⟩ := account
  obtain ⟨add', subtract', multiply', divide', _⟩ := account'
  obtain rfl : add = add' := tallies .add
  obtain rfl : subtract = subtract' := tallies .subtract
  obtain rfl : multiply = multiply' := tallies .multiply
  obtain rfl : divide = divide' := tallies .divide
  exact congrArg _ fallbacks

theorem Sums.sum_cases (sums : account.Sums tolerance results) :
    (Operator.all.map fun operator => (account.tally operator).cases).sum = results.length := by
  simp only [(sums.tallies _).cases, sum_length_ofOperator]

end Account

end Harness

end DualEval
