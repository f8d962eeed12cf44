import DualEval.Proofs.HarnessVerdict
import DualEval.Proofs.ToleranceOrder

/-!
# Raising the tolerance

What agrees within a tolerance agrees within a larger one.  With the data go the evaluations that are
verified and the cases that pass.  An accelerator is not told the tolerance, so in two runs that differ in
the tolerance alone it gives the same answers, and if the run under the smaller one succeeds, so does the
other (`DualEval.Harness.raising_tolerance`).
-/

namespace DualEval

variable {σ : Type}

namespace Evaluator

/-- The same evaluator under another tolerance. -/
def withTolerance (tolerance : Binary32) (x : Evaluator σ) : Evaluator σ :=
  { x with settings := { x.settings with parityTolerance := tolerance } }

variable {A : Accelerator σ} {x : Evaluator σ} {t t' : Binary32} {e : Expression}
  {answer : Except AcceleratorError Output}

/-- An answer that is verified under a tolerance is verified under every larger one. -/
theorem classify_mono (raised : t.atMost t' = true) {reference : Binary32} {output : Output}
    (verified : classify t reference answer = .verified output) :
    classify t' reference answer = .verified output := by
  have earned := earns_classify t reference answer
  rw [verified] at earned
  cases earned with
  | verified agreed => exact if_pos (Parity.agree_mono raised agreed)

end Evaluator

namespace Harness

open Evaluator

variable {A : Accelerator σ} {x : Evaluator σ} {t t' : Binary32} {texts : List String}

theorem passes_mono (raised : t.atMost t' = true) {e : Expression}
    {answer : Except AcceleratorError Output} (passed : Passes t (judged t e answer)) :
    Passes t' (judged t' e answer) := by
  obtain ⟨output, verified, slots⟩ := passed
  refine ⟨output, classify_mono raised verified, List.eq_nil_of_sublist_nil ?_⟩
  exact slots ▸ Parity.mismatches_sublist raised e output.diagnostics

/-- Texts that all pass under a tolerance pass under every larger one, since the accelerator gives the
same answers. -/
theorem allPass_mono (raised : t.atMost t' = true) (own : x.settings.parityTolerance = t)
    (pass : AllPass A t texts x) : AllPass A t' texts (x.withTolerance t') := by
  -- after each text the two evaluators still differ in the tolerance alone
  induction texts generalizing x with
  | nil => simp [AllPass, evaluations]
  | cons text texts ih =>
    obtain ⟨⟨evaluation, answered, passed⟩, rest⟩ := allPass_cons.mp pass
    rw [allPass_cons]
    cases parsed : Expression.parse text with
    | error error =>
      rw [evaluateText_of_error parsed] at answered
      contradiction
    | ok e =>
      rw [evaluateText_of_ok parsed] at answered rest ⊢
      obtain rfl := Except.ok.inj answered
      rw [answer_evaluate, own] at passed
      exact ⟨⟨_, rfl, passes_mono raised passed⟩, ih (x := (evaluate A e x).state) own rest⟩

variable {options : Options} {state : σ}

theorem casesPass_mono (raised : t.atMost t' = true)
    (pass : CasesPass A { options with tolerance := t } state) :
    CasesPass A { options with tolerance := t' } state :=
  allPass_mono raised rfl pass

/-- A run that succeeds under a tolerance succeeds under every larger one. -/
theorem succeeds_mono (raised : t.atMost t' = true)
    (succeeded : (runOptions A { options with tolerance := t } state).exitCode = 0) :
    (runOptions A { options with tolerance := t' } state).exitCode = 0 := by
  rw [exitCode_runOptions] at succeeded ⊢
  exact succeeded.imp_right (casesPass_mono raised)

theorem run_of_read {arguments : List String} (read : Options.read arguments = .ok options) :
    run A arguments state = runOptions A options state := by
  rw [run, read]

/-- **Raising the tolerance never turns agreement into disagreement.** Data that agree still agree; no
diagnostic slot is off that was not off before; an answer that is verified is still verified, whoever
gives it; and a run of the harness that differs from a successful one in the tolerance alone is
successful, whatever its accelerator and the state this is in, an emulation under a fault among them. -/
theorem raising_tolerance {t t' : Binary32} (raised : t.atMost t' = true) :
    (∀ e a, Parity.agree e a t = true → Parity.agree e a t' = true) ∧
    (∀ e actual, (Parity.mismatches e actual t').Sublist (Parity.mismatches e actual t)) ∧
    (∀ {σ τ : Type} (A : Accelerator σ) (B : Accelerator τ) (x : Evaluator σ) (y : Evaluator τ)
        (e : Expression) (output : Output),
      x.settings.parityTolerance = t → y.settings.parityTolerance = t' →
      (A.dispatch x.settings.accelerator e x.state).answer =
        (B.dispatch y.settings.accelerator e y.state).answer →
      (evaluate A e x).answer.status = .verified output →
        (evaluate B e y).answer.status = .verified output) ∧
    ∀ {σ : Type} (A : Accelerator σ) (state : σ) (options : Options)
        (arguments arguments' : List String),
      Options.read arguments = .ok { options with tolerance := t } →
      Options.read arguments' = .ok { options with tolerance := t' } →
      (run A arguments state).exitCode = 0 → (run A arguments' state).exitCode = 0 := by
  refine ⟨fun e a => Parity.agree_mono raised, Parity.mismatches_sublist raised, ?_, ?_⟩
  · intro σ τ A B x y e output own other same verified
    rw [answer_evaluate, own, same] at verified
    rw [answer_evaluate, other]
    exact classify_mono raised verified
  · intro σ A state options arguments arguments' read read' succeeded
    rw [run_of_read read] at succeeded
    rw [run_of_read read']
    exact succeeds_mono raised succeeded

/-- An emulation that adds one to every value passes the stress cases under a tolerance of two, and so it
does under an infinite one, within which even the two greatest finite numbers agree. -/
theorem succeeds_within_infinity :
    let t : Binary32 := .ofBits 0x40000000
    let t' : Binary32 := .ofBits 0x7f800000
    let state : Emulation := { fault := { valueAdd := some Binary32.one } }
    t.atMost t' = true ∧ Parity.agree (.ofBits 0x7f7fffff) (.ofBits 0xff7fffff) t' = true ∧
      (run emulatedAccelerator ["--count=0", "--tolerance=2"] state).exitCode = 0 ∧
      (run emulatedAccelerator ["--count=0", "--tolerance=inf"] state).exitCode = 0 := by
  intro t t' state
  let options : Options := { count := 0 }
  have raised : t.atMost t' = true := by decide
  have agreed : Parity.agree (.ofBits 0x7f7fffff) (.ofBits 0xff7fffff) t = true := by decide +kernel
  have read : Options.read ["--count=0", "--tolerance=2"] = .ok { options with tolerance := t } := by
    decide +kernel
  have read' : Options.read ["--count=0", "--tolerance=inf"] =
      .ok { options with tolerance := t' } := by
    decide +kernel
  have answers : emulatedAccelerator.AnswersBy state.fault.answer state := emulation_answersBy rfl
  have succeeded : (run emulatedAccelerator ["--count=0", "--tolerance=2"] state).exitCode = 0 := by
    rw [run_of_read read, exitCode_runOptions, casesPass_iff_of_answersBy answers]
    simp only [passes_iff]
    exact .inr (by decide +kernel)
  obtain ⟨agree, _, _, runs⟩ := raising_tolerance raised
  refine ⟨raised, agree _ _ agreed, succeeded, ?_⟩
  exact runs emulatedAccelerator state options _ _ read read' succeeded

end Harness

end DualEval
