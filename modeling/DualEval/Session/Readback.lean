import DualEval.Device.Rig

/-!
# Readback

The host never blocks for good: it polls once, for at most the configured time, and then looks
whether the signal it wants has arrived.  A staging buffer is mapped for the length of a block of
actions and is given back on every way out of the block, so that the buffer set can be used again
after any breakdown; only a mapping that was not granted needs no giving back, since the buffer is
not mapped then.
-/

namespace DualEval.Session

open Device

/-- Poll once and take a signal: whether what it reports on is granted. -/
def await (timeout : Duration) (stage : Stage) (submission : Option Nat) (signal : Nat) :
    Action Bool := do
  match ← Action.poll submission timeout with
  | .timeout => Action.fail (.wait stage .timedOut)
  | .wrongIndex asked last => Action.fail (.wait stage (.wrongIndex asked last))
  | .ok | .silent | .drop =>
    match ← Action.inspect signal with
    | .arrived granted => pure granted
    | .awaited => Action.fail (.wait stage .timedOut)
    | .lost => Action.fail (.wait stage .lost)

/-- Give a staging buffer back after a block that ended as given: the buffer is unmapped unless the
block broke down because its mapping was not granted. -/
def giveBack {α : Type} (buffer : Staging) : Except Breakdown α → Action Unit
  | .error (.mapRefused refused) =>
    if refused = buffer then pure () else Action.unmap buffer
  | _ => Action.unmap buffer

/-- Do a block of actions with a mapping of a staging buffer requested, and give the buffer back
however the block ends.  The block is handed the signal of the mapping. -/
def withMapping {α : Type} (buffer : Staging) (block : Nat → Action α) : Action α := do
  let signal ← Action.mapAsync buffer
  fun rig =>
    let (ending, rig) := block signal rig
    (ending, (giveBack buffer ending rig).2)

/-- Wait for a requested mapping to be granted. -/
def resolve (timeout : Duration) (buffer : Staging) (signal : Nat) : Action Unit := do
  if ← await timeout (.mapping buffer.name) none signal then pure ()
  else Action.fail (.mapRefused buffer)

/-- Read the data of a mapped staging buffer. -/
def readRange (buffer : Staging) : Action (Vector Binary32 buffer.datumCount) := do
  let bytes ← Action.mappedRange buffer
  match Binary32.vectorOfBytes? buffer.datumCount bytes with
  | some data => pure data
  | none => Action.fail (.wrongLength buffer (buffer.datumCount * 4) bytes.length)

end DualEval.Session
