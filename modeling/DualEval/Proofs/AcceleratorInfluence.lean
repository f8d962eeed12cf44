import DualEval.Proofs.Verification

/-!
# What an accelerator can influence

Two evaluators over any accelerators, in any states, are given the same text.  Whether it is read, what
expression it is and what the host computes for it do not depend on the evaluators, and a text that is
not read does not reach an accelerator at all.  Of an accelerator's answer only the value is looked at:
where the values are the same, so are the verdict, the value of record and the warnings, whatever the
diagnostics (`DualEval.Evaluator.influence_of_accelerator`).
-/

namespace DualEval

variable {σ τ : Type}

section Answers

variable {tolerance reference : Binary32} {output other : Output} {status status' : Status}

/-- Two outputs with the same value earn the same kind of status. -/
theorem Earns.alike (first : Earns tolerance reference (.ok output) status)
    (second : Earns tolerance reference (.ok other) status') (same : output.value = other.value) :
    (status = .verified output ∧ status' = .verified other) ∨
      (status = .diverged output ∧ status' = .diverged other) := by
  rcases first.of_ok with ⟨agreed, verified⟩ | ⟨apart, diverged⟩
  · rcases second.of_ok with ⟨_, verified'⟩ | ⟨apart, _⟩
    · exact .inl ⟨verified, verified'⟩
    · rw [← same, agreed] at apart
      contradiction
  · rcases second.of_ok with ⟨agreed, _⟩ | ⟨_, diverged'⟩
    · rw [← same, apart] at agreed
      contradiction
    · exact .inr ⟨diverged, diverged'⟩

/-- Warnings do not show diagnostics. -/
theorem Evaluator.warnings_alike (e : Expression) (same : output.value = other.value)
    (kinds : (status = .verified output ∧ status' = .verified other) ∨
      (status = .diverged output ∧ status' = .diverged other)) :
    warnings e reference status = warnings e reference status' := by
  rcases kinds with ⟨rfl, rfl⟩ | ⟨rfl, rfl⟩
  · rfl
  · exact congrArg (fun value => [Event.diverged e reference value]) same

end Answers

namespace Evaluator

variable {A : Accelerator σ} {B : Accelerator τ} {x : Evaluator σ} {y : Evaluator τ} {text : String}
  {e : Expression}

theorem events_evaluate (e : Expression) (x : Evaluator σ) :
    (evaluate A e x).events = (A.dispatch x.settings.accelerator e x.state).events ++
      warnings e e.value (evaluate A e x).answer.status := rfl

theorem earns_evaluate (e : Expression) (x : Evaluator σ) :
    Earns x.settings.parityTolerance e.value (A.dispatch x.settings.accelerator e x.state).answer
      (evaluate A e x).answer.status :=
  earns_classify _ _ _

/-- The results and the logs of two evaluations that differ in the diagnostics alone: each carries its
own output, and all else is the same. -/
structure DifferInDiagnostics (output other : Output) (r s : Evaluation) : Prop where
  expression : r.expression = s.expression
  reference : r.reference = s.reference
  status : (r.status = .verified output ∧ s.status = .verified other) ∨
    (r.status = .diverged output ∧ s.status = .diverged other)
  value : r.value = s.value
  acceleratorValue : r.output?.map Output.value = s.output?.map Output.value

theorem differInDiagnostics {output other : Output}
    (tolerance : x.settings.parityTolerance = y.settings.parityTolerance)
    (first : (A.dispatch x.settings.accelerator e x.state).answer = .ok output)
    (second : (B.dispatch y.settings.accelerator e y.state).answer = .ok other)
    (same : output.value = other.value) :
    DifferInDiagnostics output other (evaluate A e x).answer (evaluate B e y).answer := by
  have earned := earns_evaluate (A := A) e x
  have earned' := earns_evaluate (A := B) e y
  rw [first] at earned
  rw [second, ← tolerance] at earned'
  have kinds := earned.alike earned' same
  refine ⟨rfl, rfl, kinds, ?_, ?_⟩
  · unfold Evaluation.value
    rcases kinds with ⟨status, status'⟩ | ⟨status, status'⟩
    · rw [status, status']
      exact same
    · rw [status, status']
      rfl
  · unfold Evaluation.output?
    rcases kinds with ⟨status, status'⟩ | ⟨status, status'⟩
    · rw [status, status']
      exact congrArg some same
    · rw [status, status']
      exact congrArg some same

/-- **What an accelerator can influence.** Either both evaluators refuse a text with the same error, and
then no accelerator is asked and nothing is reported or changed, or both answer the same expression with
the same value of the host.  And if, under the same tolerance, both accelerators answer the same value,
the results differ in the diagnostics they carry and in nothing else, and the evaluators add the same
warnings to what their accelerators report. -/
theorem influence_of_accelerator (A : Accelerator σ) (B : Accelerator τ) (x : Evaluator σ)
    (y : Evaluator τ) (text : String) :
    ((∃ error, (∀ C : Accelerator σ, evaluateText C text x = ⟨.error error, x, []⟩) ∧
        ∀ C : Accelerator τ, evaluateText C text y = ⟨.error error, y, []⟩) ∨
      ∃ r s, (evaluateText A text x).answer = .ok r ∧ (evaluateText B text y).answer = .ok s ∧
        r.expression = s.expression ∧ r.reference = s.reference) ∧
    ∀ e output other, Expression.parse text = .ok e →
      x.settings.parityTolerance = y.settings.parityTolerance →
      (A.dispatch x.settings.accelerator e x.state).answer = .ok output →
      (B.dispatch y.settings.accelerator e y.state).answer = .ok other →
      output.value = other.value →
      ∃ r s warnings, (evaluateText A text x).answer = .ok r ∧
        (evaluateText B text y).answer = .ok s ∧ DifferInDiagnostics output other r s ∧
        (evaluateText A text x).events =
          (A.dispatch x.settings.accelerator e x.state).events ++ warnings ∧
        (evaluateText B text y).events =
          (B.dispatch y.settings.accelerator e y.state).events ++ warnings := by
  constructor
  · cases parsed : Expression.parse text with
    | error error =>
      exact .inl ⟨error, fun C => evaluateText_of_error parsed C x,
        fun C => evaluateText_of_error parsed C y⟩
    | ok e =>
      right
      refine ⟨(evaluate A e x).answer, (evaluate B e y).answer, ?_, ?_, rfl, rfl⟩
      · rw [evaluateText_of_ok parsed]
      · rw [evaluateText_of_ok parsed]
  · intro e output other parsed tolerance first second same
    have differ := differInDiagnostics tolerance first second same
    refine ⟨_, _, warnings e e.value (evaluate A e x).answer.status, ?_, ?_, differ, ?_, ?_⟩
    · rw [evaluateText_of_ok parsed]
    · rw [evaluateText_of_ok parsed]
    · rw [evaluateText_of_ok parsed]
      exact events_evaluate e x
    · rw [evaluateText_of_ok parsed, warnings_alike e same differ.status]
      exact events_evaluate e y

end Evaluator

end DualEval
