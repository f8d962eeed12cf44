import DualEval.Device.Basic
import DualEval.Device.Call

/-!
# A device at work

The bench outlives every device: it holds the script in force, the calls recorded so far and the
account of devices made and given back.  A rig is the bench with one device on it.  What a session
does with its device is an `Action`, a function of the rig that may break down; a breakdown ends the
action but keeps what it has done to the rig.

Each call is recorded together with what the staging buffers were doing when it was made, so that
rules about the use of buffers are statements about the record.
-/

namespace DualEval.Device

/-- A recorded call, with what the two staging buffers were doing when it was made. -/
structure Entry where
  call : Call
  result : Mapping := .idle
  diagnostics : Mapping := .idle
deriving DecidableEq

/-- What outlives every device. -/
structure Bench where
  script : Script := {}
  /-- The calls recorded so far, latest first. -/
  history : List Entry := []
  /-- The number of devices made; they are numbered in the order of their making. -/
  created : Nat := 0
  /-- The numbers of the devices given back, latest first. -/
  released : List Nat := []
deriving Inhabited

/-- A bench with a device on it. -/
structure Rig where
  bench : Bench
  device : Device

/-- Why a wait ends without its signal. -/
inductive WaitFailure where
  | timedOut
  | wrongIndex (asked last : Nat)
  | lost
deriving DecidableEq

/-- Why an action ends early. -/
inductive Breakdown where
  /-- The scope around the submission caught an error. -/
  | rejected (error : String)
  /-- A wait ended without its signal. -/
  | wait (stage : Stage) (cause : WaitFailure)
  /-- A mapping was not granted. -/
  | mapRefused (buffer : Staging)
  /-- A mapped range has not the length of its buffer. -/
  | wrongLength (buffer : Staging) (expected actual : Nat)
deriving DecidableEq

namespace Breakdown

/-- The error that a breakdown is reported as. -/
def toError (timeout : Duration) : Breakdown → AcceleratorError
  | rejected error => .dispatch error
  | wait stage .timedOut => .readbackTimeout stage timeout
  | wait _ (.wrongIndex asked last) =>
    .dispatch ("Tried to wait using a submission index (" ++ toString asked ++
      ") that has not been returned by a successful submission (last successful submission: " ++
      toString last ++ ")")
  | wait stage .lost => .dispatch (stage.text ++ " signal dropped before firing")
  | mapRefused buffer =>
    .bufferMap buffer.name "Error occurred when trying to async map a buffer"
  | wrongLength buffer expected actual =>
    .bufferMap buffer.name
      ("expected " ++ toString expected ++ " bytes, mapped " ++ toString actual)

end Breakdown

/-- What a session does with its device. -/
def Action (α : Type) : Type := Rig → Except Breakdown α × Rig

namespace Action

variable {α β : Type}

/-- Answer without touching the rig. -/
def answer (a : α) : Action α := fun rig => (.ok a, rig)

/-- Do one thing and, unless it breaks down, the next. -/
def andThen (first : Action α) (next : α → Action β) : Action β := fun rig =>
  match first rig with
  | (.ok a, rig) => next a rig
  | (.error breakdown, rig) => (.error breakdown, rig)

instance : Monad Action where
  pure := answer
  bind := andThen

theorem bind_apply_of_ok {first : Action α} {next : α → Action β} {rig after : Rig} {a : α}
    (h : first rig = (.ok a, after)) : (first >>= next) rig = next a after := by
  change andThen first next rig = _
  rw [andThen, h]

theorem bind_apply_of_error {first : Action α} {next : α → Action β} {rig after : Rig}
    {breakdown : Breakdown} (h : first rig = (.error breakdown, after)) :
    (first >>= next) rig = (.error breakdown, after) := by
  change andThen first next rig = _
  rw [andThen, h]

/-- Break down. -/
def fail (breakdown : Breakdown) : Action α := fun rig => (.error breakdown, rig)

end Action

namespace Bench

/-- Record a call made while no staging buffer is in use. -/
def record (bench : Bench) (call : Call) : Bench :=
  { bench with history := { call } :: bench.history }

/-- Give a device back. -/
def release (bench : Bench) (number : Nat) : Bench :=
  { bench.record .dropDevice with released := number :: bench.released }

end Bench

namespace Rig

def record (rig : Rig) (call : Call) : Rig :=
  { rig with
    bench := { rig.bench with
      history :=
        { call
          result := rig.device.resultStaging.mapping
          diagnostics := rig.device.diagnosticsStaging.mapping } :: rig.bench.history } }

end Rig

namespace Action

/-- Make calls that only leave their record. -/
def noteAll (calls : List Call) : Action Unit := fun rig => (.ok (), calls.foldl Rig.record rig)

/-- Make the call that builds the pipeline, which the script may have fail. -/
def createPipeline (call : Call) : Action Unit := fun rig =>
  let rig := rig.record call
  (.ok (), { rig with device := rig.device.raise rig.bench.script.pipelineError })

/-- Open an error scope. -/
def pushScope : Action Unit := fun rig =>
  let rig := rig.record .pushErrorScope
  (.ok (), { rig with device := rig.device.pushScope })

/-- Close the innermost error scope and answer what it has caught. -/
def popScope : Action (Option String) := fun rig =>
  let (caught, device) := rig.device.popScope
  (.ok caught, { rig.record (.popErrorScope caught) with device })

/-- Upload the bytes of a record. -/
def writeRecord (bytes : List UInt8) : Action Unit := fun rig =>
  let rig := rig.record (.writeBuffer .record 0 bytes)
  (.ok (), { rig with device := { rig.device with record := bytes } })

/-- Submit commands and answer the number of the submission.  The session is there, and its lock is
held. -/
def submit (commands : List Command) : Action Nat := fun rig =>
  let rig := rig.record (.submit 1 (SessionState.seen true true))
  let (submission, device) := rig.device.submit rig.bench.script commands
  (.ok submission, { rig with device })

/-- Ask to be told when all submitted work is done, and answer the signal of it. -/
def onWorkDone : Action Nat := fun rig =>
  let rig := rig.record .onSubmittedWorkDone
  let (signal, device) := rig.device.register .workDone
  (.ok signal, { rig with device })

/-- Poll the device, for one submission or for all, and answer how that turned out. -/
def poll (submission : Option Nat) (timeout : Duration) : Action PollOutcome := fun rig =>
  let outcome := rig.bench.script.polls.headD .ok
  let rig := rig.record (.poll submission timeout outcome)
  let script := { rig.bench.script with polls := rig.bench.script.polls.tail }
  (.ok outcome, { bench := { rig.bench with script }, device := rig.device.poll outcome })

/-- Look at a signal. -/
def inspect (signal : Nat) : Action Signal := fun rig => (.ok (rig.device.inspect signal), rig)

/-- Request the mapping of a staging buffer and answer the signal of it. -/
def mapAsync (buffer : Staging) : Action Nat := fun rig =>
  let granted := rig.bench.script.maps.headD true
  let rig := rig.record (.mapAsync buffer granted)
  let script := { rig.bench.script with maps := rig.bench.script.maps.tail }
  let (signal, device) := rig.device.mapAsync buffer granted
  (.ok signal, { bench := { rig.bench with script }, device })

/-- The bytes of the mapped range of a staging buffer. -/
def mappedRange (buffer : Staging) : Action (List UInt8) := fun rig =>
  let bytes := rig.device.mappedRange rig.bench.script buffer
  (.ok bytes, rig.record (.getMappedRange buffer bytes.length))

/-- End the mapping of a staging buffer. -/
def unmap (buffer : Staging) : Action Unit := fun rig =>
  let rig := rig.record (.unmap buffer)
  (.ok (), { rig with device := rig.device.unmap buffer })

end Action

end DualEval.Device
