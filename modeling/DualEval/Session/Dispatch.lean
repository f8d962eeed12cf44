import DualEval.Session.Labels
import DualEval.Session.Readback

/-!
# Dispatch

One dispatch uploads the record of an expression, submits one run of the kernel with the copies of
its output, waits for the submission, maps both staging buffers and reads them.  The waits and reads
follow each other in a fixed order, and the first that fails decides the answer.
-/

namespace DualEval.Session

open Device

/-- The commands of a submission. -/
def commands : List Command := [.runKernel, .copy .result, .copy .diagnostics]

/-- Record the encoding of the commands. -/
def encode : Action Unit :=
  Action.noteAll [
    .createCommandEncoder Labels.encoder,
    .beginComputePass Labels.pass,
    .setPipeline Labels.pipeline,
    .setBindGroup Kernel.bindGroup Labels.bindGroup,
    .dispatchWorkgroups 1 1 1,
    .endComputePass,
    .copyBuffer .result (.staging .result) Kernel.resultByteCount,
    .copyBuffer .diagnostics (.staging .diagnostics) Diagnostics.byteCount,
    .finish]

/-- Upload and submit within an error scope, and answer the submission's number and the signal of
its completion. -/
def launch (e : Expression) : Action (Nat × Nat) := do
  Action.pushScope
  Action.writeRecord (Record.ofExpression e).toBytes
  encode
  let submission ← Action.submit commands
  let done ← Action.onWorkDone
  match ← Action.popScope with
  | some error => Action.fail (.rejected error)
  | none => pure (submission, done)

/-- Map both staging buffers and read them. -/
def collect (timeout : Duration) : Action Output :=
  withMapping .result fun resultSignal =>
    withMapping .diagnostics fun diagnosticsSignal => do
      resolve timeout .result resultSignal
      resolve timeout .diagnostics diagnosticsSignal
      let value ← readRange .result
      let slots ← readRange .diagnostics
      pure { value := value[0], diagnostics := ⟨slots⟩ }

/-- Evaluate an expression on the device. -/
def evaluate (timeout : Duration) (e : Expression) : Action Output := do
  let (submission, done) ← launch e
  let _ ← await timeout .submission (some submission) done
  collect timeout

end DualEval.Session
