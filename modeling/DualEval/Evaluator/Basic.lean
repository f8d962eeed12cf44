import DualEval.Accelerator.Basic
import DualEval.Expression.Parser
import DualEval.Parity

/-!
# Evaluators

An evaluator computes every expression on the host and, if it can, on an accelerator as well, and
compares the two.  The host's value is always there; an accelerator that fails costs the result its
verification and nothing else.  The only thing an evaluator keeps between evaluations is the state
of its accelerator.
-/

namespace DualEval

/-- What came of the accelerator's half of an evaluation. -/
inductive Status where
  /-- The accelerator's value agrees with the host's. -/
  | verified (output : Output)
  /-- The accelerator answered, and its value does not agree. -/
  | diverged (output : Output)
  /-- The accelerator gave no answer. -/
  | failed (error : AcceleratorError)
deriving DecidableEq

/-- The result of one evaluation. -/
structure Evaluation where
  expression : Expression
  /-- The host's value. -/
  reference : Binary32
  status : Status
deriving DecidableEq

namespace Evaluation

/-- What the accelerator answered, if it did. -/
def output? (e : Evaluation) : Option Output :=
  match e.status with
  | .verified output | .diverged output => some output
  | .failed _ => none

/-- Why the accelerator gave no answer, if it gave none. -/
def failure? (e : Evaluation) : Option AcceleratorError :=
  match e.status with
  | .verified _ | .diverged _ => none
  | .failed error => some error

/-- The value of record: the accelerator's if verified, the host's otherwise. -/
def value (e : Evaluation) : Binary32 :=
  match e.status with
  | .verified output => output.value
  | .diverged _ | .failed _ => e.reference

/-- Whether the result rests on the host alone because the accelerator gave no answer. -/
def isDegraded (e : Evaluation) : Bool :=
  match e.status with
  | .failed _ => true
  | .verified _ | .diverged _ => false

end Evaluation

/-- The settings of an evaluator and the state of its accelerator. -/
structure Evaluator (σ : Type) where
  settings : EvaluatorSettings
  state : σ

namespace Evaluator

variable {σ : Type} (accelerator : Accelerator σ)

/-- The status that an accelerator's answer earns beside the host's value. -/
def classify (tolerance reference : Binary32) : Except AcceleratorError Output → Status
  | .ok output =>
    if Parity.agree reference output.value tolerance then .verified output else .diverged output
  | .error error => .failed error

/-- The warnings that a status is worth: none for a verified value, and none for a missing
session, which was reported when it went missing. -/
def warnings (e : Expression) (reference : Binary32) : Status → List Event
  | .verified _ | .failed .notInitialized => []
  | .diverged output => [.diverged e reference output.value]
  | .failed error => [.dispatchFailed e error]

/-- Build an evaluator and leave the accelerator alone. -/
def hostOnly (settings : EvaluatorSettings) (state : σ) : Evaluator σ := { settings, state }

/-- Build an evaluator and bring its accelerator up.  If that fails, the evaluator goes on without;
nobody can look at the accelerator before the evaluator is there. -/
def start (settings : EvaluatorSettings) (state : σ) : Reply (Evaluator σ) Unit :=
  let reply := accelerator.bringUp settings.accelerator false state
  let warning := match reply.answer with
    | .ok () => []
    | .error error => [.fellBack error]
  ⟨(), { settings, state := reply.state }, reply.events ++ warning⟩

def evaluate (e : Expression) (evaluator : Evaluator σ) : Reply (Evaluator σ) Evaluation :=
  let reference := e.value
  let reply := accelerator.dispatch evaluator.settings.accelerator e evaluator.state
  let status := classify evaluator.settings.parityTolerance reference reply.answer
  { answer := { expression := e, reference, status }
    state := { evaluator with state := reply.state }
    events := reply.events ++ warnings e reference status }

/-- Evaluate a text.  A text that is no expression does not reach the accelerator. -/
def evaluateText (text : String) (evaluator : Evaluator σ) :
    Reply (Evaluator σ) (Except ParseError Evaluation) :=
  match Expression.parse text with
  | .error error => ⟨.error error, evaluator, []⟩
  | .ok e =>
    let reply := evaluate accelerator e evaluator
    { reply with answer := .ok reply.answer }

end Evaluator

end DualEval
