import DualEval.Proofs.AccountSums

/-!
# The account of a set

While the cases of a set are run, the account sums up the evaluations that have come back.  If all cases
can be read, it is closed over the evaluations of the whole set, the summary is made from it, and it tells
whether the set is clean.  The emulation answers every case without regard to those before it, so the
account does not depend on the order of the cases (`DualEval.Harness.runSet_account`).
-/

namespace DualEval

variable {σ : Type} {A : Accelerator σ}

namespace Evaluator

variable {texts : List String}

/-- Texts that can be read come back as evaluations of the expressions that they are read as. -/
theorem exists_evaluations (A : Accelerator σ) (evaluator : Evaluator σ)
    (parsed : ∀ text ∈ texts, ∃ e, Expression.parse text = .ok e) :
    ∃ results : List Evaluation, evaluations A texts evaluator = results.map .ok ∧
      texts.map Expression.parse = results.map fun result => .ok result.expression := by
  induction texts generalizing evaluator with
  | nil => exact ⟨[], rfl, rfl⟩
  | cons text texts ih =>
    obtain ⟨⟨e, read⟩, rest⟩ := List.forall_mem_cons.mp parsed
    obtain ⟨results, answered, expressions⟩ := ih (evaluate A e evaluator).state rest
    refine ⟨(evaluate A e evaluator).answer :: results, ?_, ?_⟩
    · rw [evaluations, evaluateText_of_ok read, List.map_cons, ← answered]
    · rw [List.map_cons, List.map_cons, ← expressions, read, answer_evaluate]

theorem state_evaluateText_emulation (text : String) (x : Evaluator Emulation) :
    (evaluateText emulatedAccelerator text x).state = x := by
  cases parsed : Expression.parse text with
  | error error => rw [evaluateText_of_error parsed]
  | ok e =>
    have kept : (emulatedAccelerator.dispatch x.settings.accelerator e x.state).state = x.state := by
      simp only [emulatedAccelerator]
      split <;> rfl
    rw [evaluateText_of_ok parsed, state_evaluate, kept]

/-- The emulation answers every text without regard to those before it. -/
theorem evaluations_emulation (texts : List String) (x : Evaluator Emulation) :
    evaluations emulatedAccelerator texts x =
      texts.map fun text => (evaluateText emulatedAccelerator text x).answer := by
  induction texts with
  | nil => rfl
  | cons text texts ih => rw [evaluations, state_evaluateText_emulation, ih, List.map_cons]

end Evaluator

namespace Harness

open Evaluator

variable {tolerance : Binary32} {evaluator : Evaluator σ} {set : CaseSet}

/-- The account with which a set of texts is closed. -/
def closingAccount (A : Accelerator σ) (tolerance : Binary32) (texts : List String)
    (evaluator : Evaluator σ) : Account :=
  (runCases A tolerance texts { evaluator }).2.account

/-- Cases that come back as evaluations are all run, and the account goes on summing up. -/
theorem sums_runCases {texts : List String} {progress : Progress σ} {earlier results : List Evaluation}
    (sums : progress.account.Sums tolerance earlier)
    (answered : evaluations A texts progress.evaluator = results.map .ok) :
    (runCases A tolerance texts progress).1 = none ∧
      (runCases A tolerance texts progress).2.account.Sums tolerance (earlier ++ results) := by
  -- each text moves one evaluation from those that will come back to those summed up
  induction texts generalizing progress earlier results with
  | nil =>
    obtain rfl : results = [] := List.map_eq_nil_iff.mp answered.symm
    rw [List.append_nil]
    exact ⟨rfl, sums⟩
  | cons text texts ih =>
    obtain ⟨result, rest, rfl, first, others⟩ := List.map_eq_cons_iff.mp answered.symm
    rw [List.append_cons]
    simp only [runCases, ← first]
    exact ih (sums.enter result) others.symm

theorem sums_closingAccount (tolerance : Binary32) {texts : List String} {results : List Evaluation}
    (answered : evaluations A texts evaluator = results.map .ok) :
    (runCases A tolerance texts { evaluator }).1 = none ∧
      (closingAccount A tolerance texts evaluator).Sums tolerance results := by
  have begun : ({ evaluator } : Progress σ).account.Sums tolerance [] := Account.sums_new
  exact sums_runCases begun answered

theorem runSet_of_ended (ended : (runCases A tolerance set.cases { evaluator }).1 = none) :
    (runSet A tolerance set evaluator).verdict =
        .ok (closingAccount A tolerance set.cases evaluator).isClean ∧
      Report.summary tolerance set (closingAccount A tolerance set.cases evaluator) <:+
        (runSet A tolerance set evaluator).lines := by
  simp only [runSet, ended, closingAccount, true_and]
  exact List.suffix_append _ _

theorem Account.isClean_iff_counts {account : Account} : account.isClean = true ↔
    account.fallbacks = 0 ∧ ∀ operator, (account.tally operator).diverged = 0 ∧
      (account.tally operator).laneMismatches = 0 := by
  simp only [Account.isClean_iff, Tally.isClean, Bool.and_eq_true, decide_eq_true_eq]

/-- The order of the cases does not matter to the account of the emulation. -/
theorem closingAccount_perm {texts texts' : List String} {x : Evaluator Emulation}
    {results results' : List Evaluation} (same : texts'.Perm texts)
    (answered : evaluations emulatedAccelerator texts x = results.map .ok)
    (answered' : evaluations emulatedAccelerator texts' x = results'.map .ok) :
    closingAccount emulatedAccelerator tolerance texts' x =
      closingAccount emulatedAccelerator tolerance texts x := by
  have reordered : (evaluations emulatedAccelerator texts' x).Perm
      (evaluations emulatedAccelerator texts x) := by
    rw [evaluations_emulation, evaluations_emulation]
    exact same.map _
  have injective : Function.Injective (Except.ok : Evaluation → Except ParseError Evaluation) :=
    fun _ _ equal => Except.ok.inj equal
  rw [answered, answered', List.map_perm_map_iff injective] at reordered
  have sums := (sums_closingAccount tolerance answered).2
  have sums' := (sums_closingAccount tolerance answered').2
  exact (sums'.perm reordered).unique sums

/-- **The account of a set** of cases that can be read, on an emulation under any fault.  It sums up what
came back for the cases, so that the cases of all operators add up to the set; the summary is made from it;
the set is clean exactly if every case was answered, none diverged and no slot was wrong; and the cases
in another order give the same account. -/
theorem runSet_account (tolerance : Binary32) (set : CaseSet) (evaluator : Evaluator Emulation)
    (parsed : ∀ text ∈ set.cases, ∃ e, Expression.parse text = .ok e) :
    let account := closingAccount emulatedAccelerator tolerance set.cases evaluator
    let outcome := runSet emulatedAccelerator tolerance set evaluator
    (∃ results, evaluations emulatedAccelerator set.cases evaluator = results.map .ok ∧
      set.cases.map Expression.parse = (results.map fun result => .ok result.expression) ∧
      account.Sums tolerance results) ∧
    (Operator.all.map fun operator => (account.tally operator).cases).sum = set.cases.length ∧
    Report.summary tolerance set account <:+ outcome.lines ∧
    (∃ clean, outcome.verdict = .ok clean ∧ (clean = true ↔ account.fallbacks = 0 ∧
      ∀ operator, (account.tally operator).diverged = 0 ∧
        (account.tally operator).laneMismatches = 0)) ∧
    ∀ cases, cases.Perm set.cases →
      closingAccount emulatedAccelerator tolerance cases evaluator = account ∧
      (runSet emulatedAccelerator tolerance { set with cases } evaluator).verdict =
        outcome.verdict := by
  intro account outcome
  obtain ⟨results, answered, expressions⟩ :=
    exists_evaluations emulatedAccelerator evaluator parsed
  obtain ⟨ended, sums⟩ := sums_closingAccount tolerance answered
  obtain ⟨verdict, summary⟩ := runSet_of_ended ended
  refine ⟨⟨results, answered, expressions, sums⟩, ?_, summary,
    ⟨_, verdict, Account.isClean_iff_counts⟩, ?_⟩
  · have lengths := congrArg List.length expressions
    rw [List.length_map, List.length_map] at lengths
    rw [sums.sum_cases, lengths]
  · intro cases same
    have parsed' : ∀ text ∈ cases, ∃ e, Expression.parse text = .ok e :=
      fun text member => parsed text (same.mem_iff.mp member)
    obtain ⟨results', answered', _⟩ := exists_evaluations emulatedAccelerator evaluator parsed'
    have ended' := (sums_closingAccount tolerance answered').1
    have verdict' : (runSet emulatedAccelerator tolerance { set with cases } evaluator).verdict = _ :=
      (runSet_of_ended ended').1
    have kept : closingAccount emulatedAccelerator tolerance cases evaluator = account :=
      closingAccount_perm same answered answered'
    refine ⟨kept, ?_⟩
    rw [verdict', verdict, kept]

/-- An emulation that answers every quotient with one is an infinity off at one over zero, whether that
is the first case or the last. -/
theorem runSet_account_reordered :
    let set : CaseSet := { label := "pair", cases := ["(+ 1 2)", "(/ 1 0)"] }
    let evaluator : Evaluator Emulation := {
      settings := {}
      state := {
        ready := true
        fault := { operators := some [.divide], value := some Binary32.one } } }
    let account := closingAccount emulatedAccelerator Binary32.zero set.cases evaluator
    (∀ text ∈ set.cases, ∃ e, Expression.parse text = .ok e) ∧
      account.divide = { cases := 1, maxResidual := Datum.infinity binary32 false, diverged := 1 } ∧
      closingAccount emulatedAccelerator Binary32.zero ["(/ 1 0)", "(+ 1 2)"] evaluator = account := by
  intro set evaluator account
  have parsed : ∀ text ∈ set.cases, ∃ e, Expression.parse text = .ok e := by
    intro text member
    rcases List.mem_pair.mp member with rfl | rfl
    · exact ⟨{ operator := .add, left := .ofBits 0x3f800000, right := .ofBits 0x40000000 }, by decide⟩
    · exact ⟨{ operator := .divide, left := .ofBits 0x3f800000, right := .ofBits 0 }, by decide⟩
  obtain ⟨_, _, _, _, reordered⟩ := runSet_account Binary32.zero set evaluator parsed
  exact ⟨parsed, by decide +kernel, (reordered _ (List.Perm.swap _ _ _)).1⟩

end Harness

end DualEval
