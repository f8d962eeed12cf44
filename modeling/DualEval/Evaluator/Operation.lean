import DualEval.Evaluator.Basic

/-!
# Operations on an evaluator

What can be asked of an evaluator and of its accelerator, one question at a time, and the kinds of
answers.  A run is a list of questions asked one after the other.
-/

namespace DualEval

/-- A question to an evaluator. -/
inductive Operation where
  | lifecycle
  | adapterName
  | bringUp
  | shutDown
  | evaluate (e : Expression)
  | evaluateText (text : String)
  /-- Asks the accelerator directly, without host value and comparison. -/
  | dispatch (e : Expression)
deriving DecidableEq

/-- The answer to a question. -/
inductive Answer where
  | lifecycle (state : SessionState)
  | adapterName (name : Option String)
  | bringUp (outcome : Except AcceleratorError Unit)
  | shutDown
  | evaluation (outcome : Except ParseError Evaluation)
  | dispatch (outcome : Except AcceleratorError Output)

namespace Evaluator

variable {σ : Type} (accelerator : Accelerator σ)

/-- The session's state as an observer of the evaluator sees it. -/
def lifecycle (evaluator : Evaluator σ) : SessionState := accelerator.lifecycle evaluator.state

/-- Carry an accelerator's reply over to the evaluator that asked. -/
def adopt {α β : Type} (evaluator : Evaluator σ) (wrap : α → β) (reply : Reply σ α) :
    Reply (Evaluator σ) β :=
  { answer := wrap reply.answer
    state := { evaluator with state := reply.state }
    events := reply.events }

/-- Answer one question. -/
def step (evaluator : Evaluator σ) : Operation → Reply (Evaluator σ) Answer
  | .lifecycle => ⟨.lifecycle (evaluator.lifecycle accelerator), evaluator, []⟩
  | .adapterName => ⟨.adapterName (accelerator.adapterName evaluator.state), evaluator, []⟩
  | .bringUp =>
    evaluator.adopt .bringUp
      (accelerator.bringUp evaluator.settings.accelerator true evaluator.state)
  | .shutDown => evaluator.adopt (fun _ => .shutDown) (accelerator.shutDown evaluator.state)
  | .evaluate e =>
    let reply := evaluate accelerator e evaluator
    { reply with answer := .evaluation (.ok reply.answer) }
  | .evaluateText text =>
    let reply := evaluateText accelerator text evaluator
    { reply with answer := .evaluation reply.answer }
  | .dispatch e =>
    evaluator.adopt .dispatch
      (accelerator.dispatch evaluator.settings.accelerator e evaluator.state)

end Evaluator

end DualEval
