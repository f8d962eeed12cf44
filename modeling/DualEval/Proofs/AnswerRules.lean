import DualEval.Accelerator.Absent
import DualEval.Proofs.Verification

/-!
# Accelerators that answer by a rule

An accelerator may, once brought up, answer every dispatch by a rule that looks at the expression alone.
Texts evaluated in order then come back as the rule has it, each independently of those before
(`DualEval.Evaluator.evaluations_of_answersBy`).  The emulation answers by a rule under every fault, the
device does so without a script, and a machine without an accelerator does so as well.
-/

namespace DualEval

open Device

variable {σ : Type} {A : Accelerator σ}

namespace Evaluator

/-- The evaluator after texts have been evaluated in order. -/
def afterTexts (A : Accelerator σ) (texts : List String) (evaluator : Evaluator σ) : Evaluator σ :=
  texts.foldl (fun evaluator text => (evaluateText A text evaluator).state) evaluator

/-- What comes back for texts that are evaluated in order. -/
def evaluations (A : Accelerator σ) :
    List String → Evaluator σ → List (Except ParseError Evaluation)
  | [], _ => []
  | text :: texts, evaluator =>
    (evaluateText A text evaluator).answer ::
      evaluations A texts (evaluateText A text evaluator).state

theorem evaluations_append (texts texts' : List String) (evaluator : Evaluator σ) :
    evaluations A (texts ++ texts') evaluator =
      evaluations A texts evaluator ++ evaluations A texts' (afterTexts A texts evaluator) := by
  induction texts generalizing evaluator with
  | nil => rfl
  | cons text texts ih =>
    rw [List.cons_append, evaluations, ih]
    rfl

end Evaluator

/-! ### Rules -/

/-- In the state that bringing a session up leaves, whether or not it succeeded, and after any dispatches
from there on, every dispatch is answered by a rule. -/
def Accelerator.AnswersBy (A : Accelerator σ) (rule : Expression → Except AcceleratorError Output)
    (state : σ) : Prop :=
  ∃ Within : σ → Prop, (∀ settings, Within (A.bringUp settings false state).state) ∧
    ∀ settings e state, Within state → (A.dispatch settings e state).answer = rule e ∧
      Within (A.dispatch settings e state).state

/-- The rule of an accelerator on which nothing goes wrong. -/
def faultlessRule (e : Expression) : Except AcceleratorError Output :=
  .ok (Kernel.run (Record.ofExpression e))

/-- The rule of an accelerator that has no session. -/
def absentRule (_ : Expression) : Except AcceleratorError Output := .error .notInitialized

theorem emulation_answersBy {fault : Fault} (up : fault.bringUp = none) :
    emulatedAccelerator.AnswersBy fault.answer { fault } := by
  refine ⟨fun emulation => emulation = { ready := true, fault }, fun settings => ?_, ?_⟩
  · simp [emulatedAccelerator, up]
  · rintro settings e _ rfl
    exact ⟨rfl, rfl⟩

theorem emulation_absent {fault : Fault} {error : AcceleratorError}
    (down : fault.bringUp = some error) : emulatedAccelerator.AnswersBy absentRule { fault } := by
  refine ⟨fun emulation => emulation = { fault }, fun settings => ?_, ?_⟩
  · simp [emulatedAccelerator, down]
  · rintro settings e _ rfl
    exact ⟨rfl, rfl⟩

theorem answer_none_eq : ({} : Fault).answer = faultlessRule := funext Fault.answer_none

theorem emulation_faultless : emulatedAccelerator.AnswersBy faultlessRule {} :=
  answer_none_eq ▸ emulation_answersBy rfl

theorem device_faultless (bench : Bench) :
    deviceAccelerator.AnswersBy faultlessRule { bench := { bench with script := {} } } := by
  refine ⟨fun station => station.Mirrors { ready := true }, fun settings => ?_, ?_⟩
  · exact (Station.mirrors_bringUp (.down rfl rfl) settings false).state
  · intro settings e station mirrors
    have replies := Station.mirrors_dispatch mirrors settings e
    rw [emulated_dispatch, answer_none_eq] at replies
    exact ⟨replies.answer, replies.state⟩

theorem absent_answersBy : absentAccelerator.AnswersBy absentRule () :=
  ⟨fun _ => True, fun _ => trivial, fun _ _ _ _ => ⟨rfl, trivial⟩⟩

namespace Evaluator

/-- The evaluation of an expression for which the accelerator gives an answer. -/
def judged (tolerance : Binary32) (e : Expression) (answer : Except AcceleratorError Output) :
    Evaluation :=
  { expression := e, reference := e.value, status := classify tolerance e.value answer }

variable {rule : Expression → Except AcceleratorError Output} {state : σ}

/-- An accelerator that answers by a rule gives texts that are read the evaluations of the rule. -/
theorem evaluations_of_answersBy (answers : A.AnswersBy rule state) {expressions : List Expression}
    (parsed : ∀ e ∈ expressions, Expression.parse e.inputText = .ok e) (settings : EvaluatorSettings) :
    evaluations A (expressions.map Expression.inputText) (Evaluator.start A settings state).state =
      expressions.map fun e => .ok (judged settings.parityTolerance e (rule e)) := by
  obtain ⟨Within, up, step⟩ := answers
  have within : Within (Evaluator.start A settings state).state.state := up settings.accelerator
  have kept : (Evaluator.start A settings state).state.settings = settings := rfl
  generalize (Evaluator.start A settings state).state = evaluator at within kept ⊢
  -- each dispatch leaves a state within, and the settings stay, so the evaluator varies
  induction expressions generalizing evaluator with
  | nil => rfl
  | cons e expressions ih =>
    obtain ⟨first, rest⟩ := List.forall_mem_cons.mp parsed
    obtain ⟨answer, after⟩ := step evaluator.settings.accelerator e evaluator.state within
    have head : (evaluate A e evaluator).answer = judged settings.parityTolerance e (rule e) := by
      rw [answer_evaluate, answer, kept, judged]
    rw [List.map_cons, List.map_cons, evaluations, evaluateText_of_ok first, ← head]
    exact congrArg _ (ih rest _ after kept)

end Evaluator

end DualEval
