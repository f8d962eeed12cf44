import DualEval.Diagnostics

/-!
# The kernel's binding contract

The names, numbers and sizes on which the kernel and the host that launches it agree: one entry
point of one invocation, and three storage buffers in one group.
-/

namespace DualEval.Kernel

def entryPoint : String := "evaluate_expression"

/-- The name under which the kernel's text is compiled. -/
def moduleName : String := "evaluate_expression.wgsl"

/-- The invocations of a workgroup along each axis. -/
def workgroupSize : List Nat := [1, 1, 1]

def bindGroup : Nat := 0

def resultByteCount : Nat := 4

/-- A buffer that the kernel reads or writes. -/
structure Binding where
  number : Nat
  readOnly : Bool
  byteCount : Nat
deriving DecidableEq

def recordBinding : Binding := ⟨0, true, Record.byteCount⟩

def resultBinding : Binding := ⟨1, false, resultByteCount⟩

def diagnosticsBinding : Binding := ⟨2, false, Diagnostics.byteCount⟩

/-- All buffers in the order of their numbers. -/
def bindings : List Binding := [recordBinding, resultBinding, diagnosticsBinding]

end DualEval.Kernel
