import DualEval.Accelerator.Error
import DualEval.Binary.Arithmetic
import DualEval.Expression.Printer

/-!
# Log events

What a session and an evaluator report about themselves.  Each event has a level, the part of the
program that reports it, a message and named fields; numbers given directly are widened to the
64-bit format before they are written.
-/

namespace DualEval

/-- How grave an event is. -/
inductive Level where
  | info
  | debug
  | warn
deriving DecidableEq

namespace Level

def name : Level → String
  | info => "INFO"
  | debug => "DEBUG"
  | warn => "WARN"

end Level

/-- Something worth reporting. -/
inductive Event where
  /-- A session came up on an adapter. -/
  | sessionReady (adapter : String)
  /-- A session was given up. -/
  | sessionShutDown
  /-- A session takes on an expression. -/
  | dispatching (e : Expression)
  /-- An evaluator was built over an accelerator that did not come up. -/
  | fellBack (error : AcceleratorError)
  /-- A dispatch failed for another reason than a missing session. -/
  | dispatchFailed (e : Expression) (error : AcceleratorError)
  /-- The accelerator's value is off the host's. -/
  | diverged (e : Expression) (reference accelerator : Binary32)
deriving DecidableEq

namespace Event

def level : Event → Level
  | sessionReady _ | sessionShutDown => .info
  | dispatching _ => .debug
  | fellBack _ | dispatchFailed _ _ | diverged _ _ _ => .warn

/-- The part of the program that reports the event. -/
def target : Event → String
  | sessionReady _ | sessionShutDown | dispatching _ => "calc_gpu::session"
  | fellBack _ | dispatchFailed _ _ | diverged _ _ _ => "parity_lab::evaluator"

def message : Event → String
  | sessionReady _ => "accelerator session ready"
  | sessionShutDown => "accelerator session shut down"
  | dispatching _ => "dispatching expression"
  | fellBack _ => "accelerator unavailable, falling back to host reference"
  | dispatchFailed _ _ => "accelerator dispatch failed"
  | diverged _ _ _ => "accelerator diverged from host reference"

/-- A number as it is written in a field. -/
def numberText (x : Binary32) : String := (x.convert binary64).markedText

def fields : Event → List (String × String)
  | sessionReady adapter => [("adapter", adapter), ("backend", "Noop"), ("device_type", "Cpu")]
  | sessionShutDown => []
  | dispatching e =>
    [("operator", e.operator.symbol), ("a", numberText e.left), ("b", numberText e.right)]
  | fellBack error => [("error", error.message)]
  | dispatchFailed e error => [("expression", e.display), ("error", error.message)]
  | diverged e reference accelerator =>
    [("expression", e.display), ("reference", numberText reference),
      ("accelerator", numberText accelerator)]

end Event

end DualEval
