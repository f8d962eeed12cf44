import DualEval.Proofs.KernelAgreement
import DualEval.Proofs.Lifecycle
import DualEval.Proofs.SelfAgreement
import DualEval.Proofs.Simulation

/-!
# What a verified value is worth

Whatever an accelerator answers, the value of record agrees with the host's value: a value of the
accelerator is taken only if it agrees, and the host's value agrees with itself.  On an accelerator
on which nothing goes wrong every expression is verified, except under a tolerance that no finite
datum meets, not even the host's own value.
-/

namespace DualEval

open Device

variable {σ : Type}

/-! ### Any accelerator -/

/-- An accelerator's answer earns this status beside the host's value. -/
inductive Earns (tolerance reference : Binary32) :
    Except AcceleratorError Output → Status → Prop where
  | verified {output : Output} (agreed : Parity.agree reference output.value tolerance = true) :
      Earns tolerance reference (.ok output) (.verified output)
  | diverged {output : Output} (apart : Parity.agree reference output.value tolerance = false) :
      Earns tolerance reference (.ok output) (.diverged output)
  | failed {error : AcceleratorError} : Earns tolerance reference (.error error) (.failed error)

theorem earns_classify (tolerance reference : Binary32) (answer : Except AcceleratorError Output) :
    Earns tolerance reference answer (Evaluator.classify tolerance reference answer) := by
  cases answer with
  | error error => exact .failed
  | ok output =>
    cases agreed : Parity.agree reference output.value tolerance with
    | true =>
      simp only [Evaluator.classify, agreed, if_true]
      exact .verified agreed
    | false =>
      simp only [Evaluator.classify, agreed, Bool.false_eq_true, if_false]
      exact .diverged agreed

/-- An output earns one of two statuses. -/
theorem Earns.of_ok {tolerance reference : Binary32} {output : Output} {status : Status}
    (earned : Earns tolerance reference (.ok output) status) :
    Parity.agree reference output.value tolerance = true ∧ status = .verified output ∨
      Parity.agree reference output.value tolerance = false ∧ status = .diverged output := by
  cases earned with
  | verified agreed => exact .inl ⟨agreed, rfl⟩
  | diverged apart => exact .inr ⟨apart, rfl⟩

/-- A value of record agrees with the host's value, which agrees with itself. -/
theorem Earns.value_agrees {tolerance : Binary32} {answer : Except AcceleratorError Output}
    {result : Evaluation} (earned : Earns tolerance result.reference answer result.status)
    (allowed : Binary32.zero.atMost tolerance = true) :
    Parity.agree result.reference result.value tolerance = true := by
  obtain ⟨expression, reference, status⟩ := result
  cases earned with
  | verified agreed => exact agreed
  | diverged apart => exact Parity.agree_self allowed reference
  | failed => exact Parity.agree_self allowed reference

namespace Evaluator

/-- **The value of record is within tolerance of the host's value**, whatever the accelerator does.
The status carries the accelerator's answer unchanged, and the value of record is the
accelerator's if verified and the host's otherwise. -/
theorem value_of_record (accelerator : Accelerator σ) (evaluator : Evaluator σ) (text : String)
    (e : Expression) (parsed : Expression.parse text = .ok e)
    (allowed : Binary32.zero.atMost evaluator.settings.parityTolerance = true) :
    let tolerance := evaluator.settings.parityTolerance
    let answer := (accelerator.dispatch evaluator.settings.accelerator e evaluator.state).answer
    ∃ result, (evaluateText accelerator text evaluator).answer = .ok result ∧
      result.expression = e ∧
      result.reference = e.value ∧
      Earns tolerance result.reference answer result.status ∧
      Parity.agree result.reference result.value tolerance = true ∧
      result.value = match result.status with
        | .verified output => output.value
        | .diverged _ | .failed _ => result.reference := by
  intro tolerance answer
  have earned := earns_classify tolerance e.value answer
  refine ⟨(evaluate accelerator e evaluator).answer, ?_, rfl, rfl, earned, ?_, rfl⟩
  · rw [evaluateText, parsed]
  · exact earned.value_agrees allowed

/-- A fault that replaces the value does not reach the value of record. -/
theorem value_of_record_under_fault :
    let e : Expression := { operator := .divide, left := .ofBits 0x3f800000, right := .ofBits 0 }
    let evaluator : Evaluator Emulation := {
      settings := { parityTolerance := .ofBits 0x3f000000 }
      state := { ready := true, fault := { value := some (.ofBits 0x40400000) } } }
    Expression.parse "(/ 1 0)" = .ok e ∧
    Binary32.zero.atMost evaluator.settings.parityTolerance = true ∧
    ∃ result, (evaluateText emulatedAccelerator "(/ 1 0)" evaluator).answer = .ok result ∧
      Parity.agree e.value result.value (.ofBits 0x3f000000) = true := by
  intro e evaluator
  have parsed : Expression.parse "(/ 1 0)" = .ok e := by decide
  have allowed : Binary32.zero.atMost evaluator.settings.parityTolerance = true := by decide
  obtain ⟨result, answered, _, reference, _, agreed, _⟩ :=
    value_of_record emulatedAccelerator evaluator "(/ 1 0)" e parsed allowed
  rw [reference] at agreed
  exact ⟨parsed, allowed, result, answered, agreed⟩

end Evaluator

/-! ### An accelerator on which nothing goes wrong -/

/-- A ready accelerator on which nothing goes wrong: the emulation without a fault, or, after any
run of requests that leaves a session, the device under a script that passes its checks and
overwrites nothing. -/
inductive FaultFree : {σ : Type} → Accelerator σ → σ → Prop where
  | emulation : FaultFree emulatedAccelerator { ready := true }
  | device (requests : List Station.Request) (script : Script)
      (ready : deviceAccelerator.lifecycle (Station.after requests) = .ready)
      (passed : script.checks.findSome? id = none) (unpoked : script.pokes = []) :
      FaultFree deviceAccelerator ((Station.after requests).withScript script)

variable {accelerator : Accelerator σ} {state : σ}

/-- Such an accelerator answers what the host expects. -/
theorem FaultFree.dispatch (free : FaultFree accelerator state) (settings : AcceleratorSettings)
    (e : Expression) :
    (accelerator.dispatch settings e state).answer = .ok ⟨e.value, Diagnostics.expected e⟩ := by
  rw [← Kernel.run_ofExpression]
  cases free with
  | emulation => rw [emulated_dispatch, Fault.answer_none]
  | device requests script ready passed unpoked =>
    obtain ⟨session, present⟩ := Station.session_of_ready ready
    have held : ((Station.after requests).withScript script).session = some session := present
    have fresh := (Station.rests_after requests session present).fresh
    have written : script.written e = Kernel.run (Record.ofExpression e) := by
      rw [Script.written, unpoked]
      rfl
    refine (Station.answer_of_fresh held fresh e).trans ?_
    change (verdict script.checks (script.written e)).mapError _ = _
    rw [verdict_of_none passed, written]
    rfl

namespace Evaluator

/-- **Every expression is verified where nothing goes wrong**, exactly if the tolerance allows a
datum to agree with itself.  The accelerator's value is the host's, no residual is left, and no
diagnostic slot is off. -/
theorem verified_of_faultFree (free : FaultFree accelerator state) (settings : EvaluatorSettings)
    (e : Expression) :
    let tolerance := settings.parityTolerance
    let result := (evaluate accelerator e { settings, state }).answer
    result.reference = e.value ∧
    ∃ output, result.output? = some output ∧
      output.value.Alike result.reference ∧
      Parity.residual result.reference output.value = Binary32.zero ∧
      (result.status = .verified output ↔
        Binary32.zero.atMost tolerance = true ∨ result.reference.isFinite = false) ∧
      (result.status = .diverged output ↔
        ¬ (Binary32.zero.atMost tolerance = true ∨ result.reference.isFinite = false)) ∧
      ∀ u, Binary32.zero.atMost u = true → Parity.mismatches e output.diagnostics u = [] := by
  intro tolerance result
  have earned : Earns tolerance e.value (.ok ⟨e.value, Diagnostics.expected e⟩) result.status := by
    rw [← free.dispatch settings.accelerator e]
    exact earns_classify tolerance e.value _
  have reference : result.reference = e.value := rfl
  -- the output has the host's value, so the status tells whether a datum agrees with itself
  rw [reference, ← Parity.agree_self_iff]
  refine ⟨rfl, ⟨e.value, Diagnostics.expected e⟩, ?_, .refl e.value, Parity.residual_self e.value,
    ?_, ?_, fun u allowed => Parity.mismatches_expected allowed e⟩
  · unfold Evaluation.output?
    rcases earned.of_ok with ⟨_, status⟩ | ⟨_, status⟩ <;> rw [status]
  · rcases earned.of_ok with ⟨agreed, status⟩ | ⟨apart, status⟩
    · exact iff_of_true status agreed
    · simp [status, apart]
  · rcases earned.of_ok with ⟨agreed, status⟩ | ⟨apart, status⟩
    · simp [status, agreed]
    · simp [status, apart]

/-- Zero divided by zero is verified even under a tolerance below zero. -/
theorem verified_zero_by_zero :
    let e : Expression := { operator := .divide, left := .ofBits 0, right := .ofBits 0 }
    let settings : EvaluatorSettings := { parityTolerance := .ofBits 0xbf800000 }
    let state := (Station.after [.bringUp {} false]).withScript {}
    FaultFree deviceAccelerator state ∧
    ∃ output, (evaluate deviceAccelerator e { settings, state }).answer.status =
      .verified output := by
  intro e settings state
  have free : FaultFree deviceAccelerator state := .device [.bringUp {} false] {} rfl rfl rfl
  obtain ⟨reference, output, _, _, _, verified, _⟩ := verified_of_faultFree free settings e
  have notFinite : e.value.isFinite = false := by decide
  exact ⟨free, output, verified.mpr (.inr notFinite)⟩

end Evaluator

end DualEval
