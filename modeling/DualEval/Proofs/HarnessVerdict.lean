import DualEval.Proofs.Arguments
import DualEval.Proofs.CleanAccount
import DualEval.Proofs.SampleRange

/-!
# The verdict of the harness

A run succeeds exactly if each of its arguments is well-formed and either nothing was to be dispatched
or every case of both sets passed: it was verified, and no diagnostic slot was off
(`DualEval.Harness.exitCode_eq_zero_iff`).  On an accelerator on which nothing goes wrong the tolerance
alone decides, since every case can be read and agrees with itself.
-/

namespace DualEval

open Device

variable {σ : Type} {A : Accelerator σ}

namespace Harness

open Evaluator

/-- The evaluator of a run, once its accelerator has been brought up or has failed to. -/
def startedFor (A : Accelerator σ) (options : Options) (state : σ) : Evaluator σ :=
  (Evaluator.start A { parityTolerance := options.tolerance } state).state

/-- Every case of both sets comes back as an evaluation that passes. -/
def CasesPass (A : Accelerator σ) (options : Options) (state : σ) : Prop :=
  AllPass A options.tolerance ((Cases.sets options.count options.seed).flatMap CaseSet.cases)
    (startedFor A options state)

theorem exitCode_eq_zero_iff_failure {outcome : Outcome} :
    outcome.exitCode = 0 ↔ outcome.failure = none := by
  rw [Outcome.exitCode]
  cases outcome.failure <;> simp

variable {options : Options} {state : σ}

theorem exitCode_runOptions :
    (runOptions A options state).exitCode = 0 ↔
      options.skipDispatch = true ∨ CasesPass A options state := by
  rw [exitCode_eq_zero_iff_failure, CasesPass, ← runSets_eq_ok_nil_iff, startedFor]
  simp only [runOptions]
  cases options.skipDispatch with
  | true => simp
  | false =>
    simp only [Bool.false_eq_true, if_false, false_or]
    split
    case h_1 failure failed => simp [failed]
    case h_2 clean => simp [clean]
    case h_3 labels unclean some => simpa [some] using unclean

variable {arguments : List String}

theorem exitCode_run :
    (run A arguments state).exitCode = 0 ↔
      ∃ settings, List.Forall₂ Asks arguments settings ∧
        (.skipDispatch ∈ settings ∨ CasesPass A (.chosen settings) state) := by
  have flag (settings : List Setting) :
      (Options.chosen settings).skipDispatch = true ↔ .skipDispatch ∈ settings := decide_eq_true_iff
  unfold run
  cases read : Options.read arguments with
  | error error =>
    rw [exitCode_eq_zero_iff_failure]
    constructor
    · intro failed
      contradiction
    · rintro ⟨settings, asked, _⟩
      rw [Options.read_eq_ok_iff.mpr ⟨settings, asked, rfl⟩] at read
      contradiction
  | ok options =>
    simp only [exitCode_runOptions]
    constructor
    · intro succeeded
      obtain ⟨settings, asked, rfl⟩ := Options.read_eq_ok_iff.mp read
      rw [flag] at succeeded
      exact ⟨settings, asked, succeeded⟩
    · rintro ⟨settings, asked, succeeded⟩
      rw [Options.read_eq_ok_iff.mpr ⟨settings, asked, rfl⟩] at read
      rwa [← Except.ok.inj read, flag]

/-! ### Where nothing goes wrong, and where nothing answers -/

variable {tolerance : Binary32} {e : Expression}
  {rule : Expression → Except AcceleratorError Output}

theorem casesPass_iff_of_answersBy (answers : A.AnswersBy rule state) :
    CasesPass A options state ↔ ∀ e ∈ Cases.expressions options.count options.seed,
      Passes options.tolerance (judged options.tolerance e (rule e)) := by
  unfold CasesPass AllPass startedFor
  rw [Cases.texts_eq, evaluations_of_answersBy answers fun e member => Cases.parse_case member]
  simp

theorem not_passes_error (error : AcceleratorError) :
    ¬ Passes tolerance (judged tolerance e (.error error)) := by
  rintro ⟨output, verified, _⟩
  contradiction

theorem passes_ok_iff {output : Output} :
    Passes tolerance (judged tolerance e (.ok output)) ↔
      Parity.agree e.value output.value tolerance = true ∧
        Parity.mismatches e output.diagnostics tolerance = [] := by
  unfold Passes judged
  rcases (earns_classify tolerance e.value (.ok output)).of_ok with
    ⟨agreed, status⟩ | ⟨apart, status⟩
  · simp [status, agreed]
  · simp [status, apart]

/-- Without a session no case passes, and there are always some. -/
theorem not_casesPass_of_absent (absent : A.AnswersBy absentRule state) :
    ¬ CasesPass A options state := by
  rw [casesPass_iff_of_answersBy absent]
  intro pass
  have member : Cases.stress.head (by decide) ∈ Cases.expressions options.count options.seed :=
    List.mem_append_right _ (List.head_mem _)
  exact not_passes_error _ (pass _ member)

/-- Where nothing goes wrong all cases pass exactly under a tolerance that is not below zero. -/
theorem casesPass_iff_of_faultless (faultless : A.AnswersBy faultlessRule state) :
    CasesPass A options state ↔ Binary32.zero.atMost options.tolerance = true := by
  simp only [casesPass_iff_of_answersBy faultless, faultlessRule, Kernel.run_ofExpression,
    passes_ok_iff]
  constructor
  · intro pass
    -- the sum of the two zeros is finite, so the tolerance is looked at
    let zeros : Expression := Cases.stress[4]
    have member : zeros ∈ Cases.expressions options.count options.seed :=
      List.mem_append_right _ (List.getElem_mem _)
    have finite : zeros.value.isFinite = true := by decide +kernel
    have agreed := (pass zeros member).1
    rw [Parity.agree_self_iff, finite] at agreed
    exact agreed.resolve_right (by decide)
  · intro allowed e _
    exact ⟨Parity.agree_self allowed e.value, Parity.mismatches_expected allowed e⟩

theorem exitCode_run_of_dispatching (dispatches : "--skip-dispatch" ∉ arguments) :
    (run A arguments state).exitCode = 0 ↔
      ∃ settings, List.Forall₂ Asks arguments settings ∧ CasesPass A (.chosen settings) state := by
  rw [exitCode_run]
  apply exists_congr
  intro settings
  apply and_congr_right
  intro asked
  exact or_iff_right fun skips => dispatches (Options.mem_of_skipDispatch_mem asked skips)

/-- **The verdict of the harness is exact.** It succeeds exactly if each argument is well-formed and
either nothing is to be dispatched or every case of both sets passes.  Where nothing goes wrong this is
so exactly under a tolerance that is not below zero, and without a session it is never so. -/
theorem exitCode_eq_zero_iff (arguments : List String) :
    (∀ {σ : Type} (A : Accelerator σ) (state : σ),
      (run A arguments state).exitCode = 0 ↔
        ∃ settings, List.Forall₂ Asks arguments settings ∧
          (.skipDispatch ∈ settings ∨ CasesPass A (.chosen settings) state)) ∧
    ("--skip-dispatch" ∉ arguments → ∀ {σ : Type} (A : Accelerator σ) (state : σ),
      (A.AnswersBy faultlessRule state →
        ((run A arguments state).exitCode = 0 ↔
          ∃ settings, List.Forall₂ Asks arguments settings ∧
            Binary32.zero.atMost (Options.chosen settings).tolerance = true)) ∧
      (A.AnswersBy absentRule state → (run A arguments state).exitCode ≠ 0)) ∧
    emulatedAccelerator.AnswersBy faultlessRule {} ∧
    (∀ bench : Bench,
      deviceAccelerator.AnswersBy faultlessRule { bench := { bench with script := {} } }) ∧
    absentAccelerator.AnswersBy absentRule () ∧
    ∀ (fault : Fault) (error : AcceleratorError), fault.bringUp = some error →
      emulatedAccelerator.AnswersBy absentRule { fault } := by
  refine ⟨fun A state => exitCode_run, fun dispatches σ A state => ⟨?_, ?_⟩, emulation_faultless,
    device_faultless, absent_answersBy, fun fault error => emulation_absent⟩
  · intro faultless
    simp only [exitCode_run_of_dispatching dispatches, casesPass_iff_of_faultless faultless]
  · intro absent succeeded
    obtain ⟨settings, _, pass⟩ := (exitCode_run_of_dispatching dispatches).mp succeeded
    exact not_casesPass_of_absent absent pass

end Harness

end DualEval
