import DualEval.Session.Dispatch

/-!
# The device session

A session owns a device, named by its number, from the moment its kernel and buffers are in place
until it is shut down.  Bringing a session up can fail at three depths: no adapter, no device, or a
kernel that is not accepted; in the last case the device already made is given back at once.  A
dispatch that fails leaves the session in place.

Every operation holds the lock of the session from its beginning to its end, and whoever else asks
meanwhile waits for the lock.  Operations are therefore whole functions of the station, taken one
after the other, and the lock is free between them.  That it is held is seen only by those who look
while an operation is under way, as the calls do that record what they have seen.
-/

namespace DualEval

open Device

/-- A session: the adapter's name, and the device with its number. -/
structure Session where
  adapter : String
  number : Nat
  device : Device

/-- The bench, and the session on it if there is one. -/
structure Station where
  bench : Bench := {}
  session : Option Session := none
deriving Inhabited

namespace Session

/-- Compile the kernel within an error scope; answer what the scope has caught. -/
def buildPipeline : Action (Option String) := do
  Action.pushScope
  Action.noteAll [
    .createBindGroupLayout Labels.bindGroupLayout Kernel.bindings,
    .createPipelineLayout Labels.pipelineLayout [Labels.bindGroupLayout],
    .createShaderModule Kernel.moduleName]
  Action.createPipeline (.createComputePipeline Labels.pipeline Labels.pipelineLayout
    Kernel.moduleName Kernel.entryPoint)
  Action.popScope

/-- Make the buffers and bind those of the kernel. -/
def makeBuffers : Action Unit := do
  Action.noteAll (Buffer.all.map Call.createBuffer)
  Action.noteAll [.createBindGroup Labels.bindGroup Labels.bindGroupLayout
    [(Kernel.recordBinding.number, .record), (Kernel.resultBinding.number, .result),
      (Kernel.diagnosticsBinding.number, .diagnostics)]]

/-- Put the kernel and the buffers on a new device; the error says why the kernel was not
accepted. -/
def furnish : Action (Option String) := do
  match ← buildPipeline with
  | some error => pure (some error)
  | none =>
    makeBuffers
    pure none

/-- Ask for an adapter and a device, and furnish the device. -/
def acquire (bench : Bench) (settings : AcceleratorSettings) (observed : Bool) :
    Except AcceleratorError Session × Bench :=
  -- the adapter is asked for under the lock, before there is a session
  let seen := if observed then some (SessionState.seen true false) else none
  let bench := bench.record
    (.requestAdapter settings.powerPreference settings.forceFallbackAdapter seen)
  match bench.script.adapterError with
  | some error => (.error (.unavailable error), bench)
  | none =>
    let adapter := bench.script.adapterName
    let bench := bench.record (.requestDevice Labels.device)
    match bench.script.deviceError with
    | some error => (.error (.unavailable error), bench)
    | none =>
      let number := bench.created
      let rig : Rig := { bench := { bench with created := number + 1 }, device := {} }
      match furnish rig with
      | (.ok none, rig) => (.ok { adapter, number, device := rig.device }, rig.bench)
      | (.ok (some error), rig) => (.error (.kernelCompilation error), rig.bench.release number)
      | (.error breakdown, rig) =>
        (.error (breakdown.toError settings.readbackTimeout), rig.bench.release number)

end Session

namespace Station

/-- Bring a session up; on a ready station nothing happens. -/
def bringUp (settings : AcceleratorSettings) (observed : Bool) (station : Station) :
    Reply Station (Except AcceleratorError Unit) :=
  match station.session with
  | some _ => ⟨.ok (), station, []⟩
  | none =>
    match Session.acquire station.bench settings observed with
    | (.ok session, bench) =>
      ⟨.ok (), { bench, session := some session }, [.sessionReady session.adapter]⟩
    | (.error error, bench) => ⟨.error error, { bench, session := none }, []⟩

/-- Give the session and its device up, if there is one. -/
def shutDown (station : Station) : Reply Station Unit :=
  match station.session with
  | some session =>
    ⟨(), { bench := station.bench.release session.number, session := none }, [.sessionShutDown]⟩
  | none => ⟨(), station, []⟩

/-- Evaluate an expression in the session. -/
def dispatch (settings : AcceleratorSettings) (e : Expression) (station : Station) :
    Reply Station (Except AcceleratorError Output) :=
  match station.session with
  | none => ⟨.error .notInitialized, station, []⟩
  | some session =>
    let timeout := settings.readbackTimeout
    let (ending, rig) :=
      Session.evaluate timeout e { bench := station.bench, device := session.device }
    { answer := ending.mapError (·.toError timeout)
      state := { bench := rig.bench, session := some { session with device := rig.device } }
      events := [.dispatching e] }

end Station

/-- The accelerator that drives a device.  Its lock is free between operations. -/
def deviceAccelerator : Accelerator Station where
  lifecycle := fun station => SessionState.seen false station.session.isSome
  adapterName := fun station => station.session.map (·.adapter)
  bringUp := Station.bringUp
  shutDown := Station.shutDown
  dispatch := Station.dispatch

end DualEval
