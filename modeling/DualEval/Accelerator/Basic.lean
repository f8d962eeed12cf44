import DualEval.Accelerator.Event
import DualEval.Kernel.Basic
import DualEval.Settings.Basic

/-!
# Accelerators

What an evaluator needs of an accelerator: a session that can be brought up, used and shut down.
Every operation is a function of the accelerator's state and replies with its answer, the next state
and the events it reports, so that whole runs are compositions of functions.
-/

namespace DualEval

/-- What can be seen of a session.  It is busy only while one of its operations is under way. -/
inductive SessionState where
  | uninitialized
  | ready
  | dispatching
deriving DecidableEq

namespace SessionState

def name : SessionState → String
  | uninitialized => "Uninitialized"
  | ready => "Ready"
  | dispatching => "Dispatching"

/-- What a look at a session shows, given whether an operation holds its lock and whether there is a
session.  While the lock is held nothing behind it can be seen. -/
def seen (locked present : Bool) : SessionState :=
  if locked then dispatching else if present then ready else uninitialized

end SessionState

/-- The outcome of an operation: its answer, the state after it and the events reported. -/
structure Reply (σ α : Type) where
  answer : α
  state : σ
  events : List Event := []

/-- The operations of an accelerator whose state has type `σ`. -/
structure Accelerator (σ : Type) where
  /-- The session's state between operations. -/
  lifecycle : σ → SessionState
  /-- The name of the adapter in use. -/
  adapterName : σ → Option String
  /-- Bring a session up; on a ready accelerator nothing happens.  The flag says whether the
  accelerator can be looked at meanwhile. -/
  bringUp : AcceleratorSettings → Bool → σ → Reply σ (Except AcceleratorError Unit)
  /-- Give the session up, if there is one. -/
  shutDown : σ → Reply σ Unit
  /-- Evaluate an expression in the session. -/
  dispatch : AcceleratorSettings → Expression → σ → Reply σ (Except AcceleratorError Output)

end DualEval
