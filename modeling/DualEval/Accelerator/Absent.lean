import DualEval.Accelerator.Basic

/-!
# No accelerator

A machine without any adapter: a session never comes up, so there is no state to keep.
-/

namespace DualEval

/-- The accelerator of a machine that has none. -/
def absentAccelerator : Accelerator Unit where
  lifecycle := fun _ => .uninitialized
  adapterName := fun _ => none
  bringUp := fun _ _ _ => ⟨.error (.unavailable "no adapter"), (), []⟩
  shutDown := fun _ => ⟨(), (), []⟩
  dispatch := fun _ _ _ => ⟨.error .notInitialized, (), []⟩

end DualEval
