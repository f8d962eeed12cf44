import DualEval.Duration

/-!
# Why an accelerator gives no answer

Each constructor is one cause, carrying what its wording needs.
-/

namespace DualEval

/-- What a bounded wait waits for. -/
inductive Stage where
  | submission
  | mapping (buffer : String)
deriving DecidableEq

namespace Stage

def text : Stage → String
  | submission => "submission completion"
  | mapping buffer => "mapping of " ++ buffer

end Stage

/-- Why an accelerator gives no answer. -/
inductive AcceleratorError where
  /-- No adapter or no device could be had. -/
  | unavailable (reason : String)
  /-- The kernel was not accepted. -/
  | kernelCompilation (reason : String)
  /-- There is no session. -/
  | notInitialized
  /-- The work was not accepted, or a wait broke off. -/
  | dispatch (reason : String)
  /-- A signal did not arrive within its wait. -/
  | readbackTimeout (stage : Stage) (timeout : Duration)
  /-- A buffer could not be mapped or read. -/
  | bufferMap (buffer reason : String)
deriving DecidableEq

namespace AcceleratorError

def message : AcceleratorError → String
  | unavailable reason => "no compatible accelerator available: " ++ reason
  | kernelCompilation reason => "kernel compilation failed: " ++ reason
  | notInitialized => "accelerator session is not initialized"
  | dispatch reason => "dispatch failed: " ++ reason
  | readbackTimeout stage timeout =>
    "timed out after " ++ timeout.text ++ " waiting for " ++ stage.text
  | bufferMap buffer reason => "failed to map " ++ buffer ++ ": " ++ reason

end AcceleratorError

end DualEval
