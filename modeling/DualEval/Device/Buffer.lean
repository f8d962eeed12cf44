import DualEval.Kernel.Contract

/-!
# The buffer set

Five fixed buffers: three that the kernel is bound to and two staging buffers, into which the value
and the diagnostics are copied so that the host can map and read them.
-/

namespace DualEval.Device

/-- A staging buffer. -/
inductive Staging where
  | result
  | diagnostics
deriving DecidableEq

namespace Staging

/-- The name in errors. -/
def name : Staging → String
  | result => "result"
  | diagnostics => "diagnostics"

/-- The number of data in the buffer. -/
def datumCount : Staging → Nat
  | result => 1
  | diagnostics => Diagnostics.slotCount

end Staging

/-- A buffer of the set. -/
inductive Buffer where
  | record
  | result
  | diagnostics
  | staging (buffer : Staging)
deriving DecidableEq

namespace Buffer

/-- The buffers in the order in which they are made. -/
def all : List Buffer := [record, result, diagnostics, staging .result, staging .diagnostics]

/-- The buffer's label. -/
def label : Buffer → String
  | record => "ExpressionRecord"
  | result => "ExpressionResult"
  | diagnostics => "ExpressionDiagnostics"
  | staging .result => "ExpressionResultStaging"
  | staging .diagnostics => "ExpressionDiagnosticsStaging"

def byteCount : Buffer → Nat
  | record => Record.byteCount
  | result | staging .result => Kernel.resultByteCount
  | diagnostics | staging .diagnostics => Diagnostics.byteCount

/-- What the buffer may be used for. -/
def usages : Buffer → List String
  | record => ["COPY_DST", "STORAGE"]
  | result | diagnostics => ["COPY_SRC", "STORAGE"]
  | staging _ => ["MAP_READ", "COPY_DST"]

end Buffer

end DualEval.Device
