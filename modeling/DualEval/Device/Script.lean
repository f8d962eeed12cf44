import DualEval.Device.Buffer

/-!
# Scripts

A script says how a device misbehaves: which requests fail, and how the coming polls and mappings
turn out.  Queues are used up from the front, and once a queue is empty everything goes well.
-/

namespace DualEval.Device

/-- How a poll turns out. -/
inductive PollOutcome where
  /-- All pending callbacks fire. -/
  | ok
  /-- The poll succeeds and no callback fires. -/
  | silent
  /-- The poll succeeds and the pending callbacks are discarded. -/
  | drop
  /-- The poll runs out of time. -/
  | timeout
  /-- The poll refuses the submission it was asked to wait for. -/
  | wrongIndex (asked last : Nat)
deriving DecidableEq

/-- What is to go wrong on a device. -/
structure Script where
  adapterError : Option String := none
  deviceError : Option String := none
  adapterName : String := "emulated"
  /-- Reported by the error scope around the creation of the pipeline. -/
  pipelineError : Option String := none
  /-- Reported by the error scope around a submission, whose work does not run. -/
  submitError : Option String := none
  polls : List PollOutcome := []
  /-- Whether the coming mappings are granted. -/
  maps : List Bool := []
  /-- The number of bytes a mapped range has, by the label of the buffer. -/
  mappedBytes : List (String × Nat) := []
  /-- Stored after the kernel has run: binding, index and datum. -/
  pokes : List (Nat × Nat × Binary32) := []
deriving Inhabited

end DualEval.Device
