import DualEval.Device.Rig

/-!
# What commands change

The commands of a submission change the bytes of the buffers and nothing else.  Signals, error
scopes, the number of submissions and the mappings of the staging buffers can all be read off the
device without its bytes (`DualEval.Device.bare`), so none of them is changed by a command.
-/

namespace DualEval.Device

/-- The device without the bytes of its buffers. -/
def bare (d : Device) : Device :=
  { d with
    record := []
    result := []
    diagnostics := []
    resultStaging := { d.resultStaging with bytes := [] }
    diagnosticsStaging := { d.diagnosticsStaging with bytes := [] } }

theorem bare_poke (d : Device) (binding index : Nat) (x : Binary32) :
    (d.poke binding index x).bare = d.bare := by
  unfold poke
  split
  · rfl
  · split
    · rfl
    · split <;> rfl

theorem bare_pokes (pokes : List (Nat × Nat × Binary32)) (d : Device) :
    (pokes.foldl (fun d (binding, index, x) => d.poke binding index x) d).bare = d.bare := by
  induction pokes generalizing d with
  | nil => rfl
  | cons place pokes ih => exact (ih _).trans (bare_poke d _ _ _)

theorem bare_execute (script : Script) (d : Device) (command : Command) :
    (d.execute script command).bare = d.bare := by
  cases command with
  | runKernel =>
    unfold execute runKernel
    refine (bare_pokes script.pokes _).trans ?_
    split <;> rfl
  | copy buffer => cases buffer <;> rfl

theorem bare_commands (script : Script) (commands : List Command) (d : Device) :
    (commands.foldl (execute script) d).bare = d.bare := by
  induction commands generalizing d with
  | nil => rfl
  | cons command commands ih => exact (ih _).trans (bare_execute script d command)

end DualEval.Device
