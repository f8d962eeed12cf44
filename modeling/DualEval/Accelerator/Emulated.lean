import DualEval.Accelerator.Basic

/-!
# The emulated accelerator

A session is one bit of state, and a dispatch is one run of the kernel.  A fault in force makes it
fail or changes what it answers, for all operators or for some.
-/

namespace DualEval

/-- What goes wrong in an emulated accelerator. -/
structure Fault where
  /-- Bringing the session up fails with this. -/
  bringUp : Option AcceleratorError := none
  /-- The operators that the rest applies to; all of them when absent. -/
  operators : Option (List Operator) := none
  /-- A dispatch fails with this. -/
  failure : Option AcceleratorError := none
  /-- This replaces the value. -/
  value : Option Binary32 := none
  /-- This is then added to the value. -/
  valueAdd : Option Binary32 := none
  /-- These slots are overwritten in order. -/
  slots : List (Nat × Binary32) := []
deriving Inhabited

namespace Fault

/-- Whether the fault concerns dispatches of an operator. -/
def concerns (fault : Fault) (operator : Operator) : Bool :=
  match fault.operators with
  | none => true
  | some operators => operators.contains operator

/-- What a concerned dispatch answers instead of the kernel's output. -/
def distort (fault : Fault) (output : Output) : Output :=
  let value := fault.value.getD output.value
  { value := match fault.valueAdd with
      | some term => value.add term
      | none => value
    diagnostics := output.diagnostics.overwrite fault.slots }

/-- The answer to a dispatch. -/
def answer (fault : Fault) (e : Expression) : Except AcceleratorError Output :=
  let output := Kernel.run (Record.ofExpression e)
  if fault.concerns e.operator then
    match fault.failure with
    | some error => .error error
    | none => .ok (fault.distort output)
  else .ok output

end Fault

/-- The state of an emulated accelerator. -/
structure Emulation where
  ready : Bool := false
  fault : Fault := {}
deriving Inhabited

/-- The accelerator that runs the kernel directly. -/
def emulatedAccelerator : Accelerator Emulation where
  lifecycle := fun emulation => if emulation.ready then .ready else .uninitialized
  adapterName := fun emulation => if emulation.ready then some "emulated" else none
  bringUp := fun _ _ emulation =>
    if emulation.ready then ⟨.ok (), emulation, []⟩
    else
      match emulation.fault.bringUp with
      | some error => ⟨.error error, emulation, []⟩
      | none => ⟨.ok (), { emulation with ready := true }, []⟩
  shutDown := fun emulation => ⟨(), { emulation with ready := false }, []⟩
  dispatch := fun _ e emulation =>
    if emulation.ready then ⟨emulation.fault.answer e, emulation, []⟩
    else ⟨.error .notInitialized, emulation, []⟩

end DualEval
