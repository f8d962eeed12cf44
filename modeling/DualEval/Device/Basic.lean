import DualEval.Device.Script
import DualEval.Kernel.Basic

/-!
# The device

A device holds the buffer set, numbers the submissions and owns the callbacks that wait to fire.
Every callback carries the number of a signal, drawn fresh when the callback is registered, so a
callback left over from an earlier dispatch can never be taken for one of a later dispatch.  A
signal has arrived once it is among the deliveries, is awaited while its callback is pending, and
is lost when it is neither.
-/

namespace DualEval.Device

/-- What a staging buffer is doing. -/
inductive Mapping where
  | idle
  /-- A mapping is requested; the flag says whether it will be granted. -/
  | pending (granted : Bool)
  /-- The buffer is mapped; the flag says whether the callback has reported it. -/
  | mapped (reported : Bool)
deriving DecidableEq, Inhabited

namespace Mapping

/-- What becomes of a mapping when its callback fires: one that is not granted ends. -/
def settle : Mapping → Mapping
  | pending true => mapped true
  | pending false => idle
  | other => other

/-- What becomes of a mapping when its callback is discarded: the buffer counts as mapped. -/
def lose : Mapping → Mapping
  | pending _ => mapped false
  | other => other

end Mapping

/-- A callback that waits to fire. -/
inductive Callback where
  | workDone (signal : Nat)
  | mapping (buffer : Staging) (granted : Bool) (signal : Nat)
deriving DecidableEq

namespace Callback

/-- The number of the callback's signal. -/
def signal : Callback → Nat
  | workDone signal => signal
  | mapping _ _ signal => signal

/-- What the callback tells when it fires: whether what was asked for is granted. -/
def report : Callback → Bool
  | workDone _ => true
  | mapping _ granted _ => granted

/-- Whether the callback belongs to a mapping of a buffer. -/
def concerns (buffer : Staging) : Callback → Bool
  | workDone _ => false
  | mapping owner _ _ => owner = buffer

end Callback

/-- What is known of a signal. -/
inductive Signal where
  | arrived (granted : Bool)
  | awaited
  | lost
deriving DecidableEq

/-- A command of a submission. -/
inductive Command where
  | runKernel
  | copy (buffer : Staging)
deriving DecidableEq

/-- A staging buffer: its bytes, and what it is doing. -/
structure Staged where
  bytes : List UInt8
  mapping : Mapping := .idle
deriving DecidableEq, Inhabited

end Device

open Device in
/-- The state of a device. -/
structure Device where
  /-- The number of submissions made. -/
  submissions : Nat := 0
  nextSignal : Nat := 0
  /-- The callbacks that wait to fire. -/
  callbacks : List Callback := []
  /-- The signals that have arrived, with their reports; the latest comes first. -/
  deliveries : List (Nat × Bool) := []
  /-- The open error scopes, innermost first, with the error each has caught. -/
  scopes : List (Option String) := []
  record : List UInt8 := List.replicate (Buffer.byteCount .record) 0
  result : List UInt8 := List.replicate (Buffer.byteCount .result) 0
  diagnostics : List UInt8 := List.replicate (Buffer.byteCount .diagnostics) 0
  resultStaging : Staged := { bytes := List.replicate (Buffer.byteCount .result) 0 }
  diagnosticsStaging : Staged := { bytes := List.replicate (Buffer.byteCount .diagnostics) 0 }
deriving Inhabited

namespace Device

/-- A staging buffer of the set. -/
def staged (d : Device) : Staging → Staged
  | .result => d.resultStaging
  | .diagnostics => d.diagnosticsStaging

def updateStaged (d : Device) (buffer : Staging) (change : Staged → Staged) : Device :=
  match buffer with
  | .result => { d with resultStaging := change d.resultStaging }
  | .diagnostics => { d with diagnosticsStaging := change d.diagnosticsStaging }

/-- Change what both staging buffers are doing. -/
def updateMappings (d : Device) (change : Mapping → Mapping) : Device :=
  { d with
    resultStaging := { d.resultStaging with mapping := change d.resultStaging.mapping }
    diagnosticsStaging :=
      { d.diagnosticsStaging with mapping := change d.diagnosticsStaging.mapping } }

/-- Open an error scope. -/
def pushScope (d : Device) : Device := { d with scopes := none :: d.scopes }

/-- Report an error to the innermost scope, which keeps the first one. -/
def raise (d : Device) (error : Option String) : Device :=
  match d.scopes with
  | none :: outer => { d with scopes := error :: outer }
  | _ => d

/-- Close the innermost error scope and take what it has caught. -/
def popScope (d : Device) : Option String × Device :=
  match d.scopes with
  | caught :: outer => (caught, { d with scopes := outer })
  | [] => (none, d)

/-- Draw a signal and register the callback that is to send it. -/
def register (d : Device) (callback : Nat → Callback) : Nat × Device :=
  (d.nextSignal,
    { d with
      nextSignal := d.nextSignal + 1
      callbacks := callback d.nextSignal :: d.callbacks })

/-- Look at a signal. -/
def inspect (d : Device) (signal : Nat) : Signal :=
  match d.deliveries.lookup signal with
  | some granted => .arrived granted
  | none =>
    if d.callbacks.any fun callback => callback.signal = signal then .awaited else .lost

/-- Fire all pending callbacks. -/
def fireAll (d : Device) : Device :=
  { d.updateMappings .settle with
    callbacks := []
    deliveries := d.callbacks.map (fun callback => (callback.signal, callback.report)) ++
      d.deliveries }

/-- Discard all pending callbacks unfired. -/
def discardAll (d : Device) : Device := { d.updateMappings .lose with callbacks := [] }

def poll (d : Device) : PollOutcome → Device
  | .ok => d.fireAll
  | .drop => d.discardAll
  | .silent | .timeout | .wrongIndex _ _ => d

/-- Request the mapping of a buffer. -/
def mapAsync (d : Device) (buffer : Staging) (granted : Bool) : Nat × Device :=
  let (signal, d) := d.register (.mapping buffer granted)
  (signal, d.updateStaged buffer fun staged => { staged with mapping := .pending granted })

/-- End the mapping of a buffer.  A callback still pending fires with an error. -/
def unmap (d : Device) (buffer : Staging) : Device :=
  let (ended, kept) := d.callbacks.partition (Callback.concerns buffer)
  { d.updateStaged buffer fun staged => { staged with mapping := .idle } with
    callbacks := kept
    deliveries := ended.map (fun callback => (callback.signal, false)) ++ d.deliveries }

/-- Store a datum at an index of a buffer of data; a place past the end changes nothing. -/
def storeDatum (bytes : List UInt8) (index : Nat) (x : Binary32) : List UInt8 :=
  if 4 * index + 4 ≤ bytes.length then
    bytes.take (4 * index) ++ x.toBytes ++ bytes.drop (4 * index + 4)
  else bytes

/-- Store a datum into the buffer at a binding of the kernel. -/
def poke (d : Device) (binding index : Nat) (x : Binary32) : Device :=
  if binding = Kernel.recordBinding.number then
    { d with record := storeDatum d.record index x }
  else if binding = Kernel.resultBinding.number then
    { d with result := storeDatum d.result index x }
  else if binding = Kernel.diagnosticsBinding.number then
    { d with diagnostics := storeDatum d.diagnostics index x }
  else d

/-- Run the kernel over the bound buffers, then store what the script says. -/
def runKernel (d : Device) (script : Script) : Device :=
  let d := match Kernel.runBytes d.record with
    | .ok output =>
      { d with result := output.value.toBytes, diagnostics := output.diagnostics.toBytes }
    | .error _ => d
  script.pokes.foldl (fun d (binding, index, x) => d.poke binding index x) d

/-- Copy the value or the diagnostics into its staging buffer. -/
def copy (d : Device) : Staging → Device
  | .result => d.updateStaged .result fun staged => { staged with bytes := d.result }
  | .diagnostics => d.updateStaged .diagnostics fun staged => { staged with bytes := d.diagnostics }

/-- Carry out one command. -/
def execute (script : Script) (d : Device) : Command → Device
  | .runKernel => d.runKernel script
  | .copy buffer => d.copy buffer

/-- Number a submission and carry out its commands.  If the script has an error for submissions,
that is raised and nothing is carried out. -/
def submit (d : Device) (script : Script) (commands : List Command) : Nat × Device :=
  let d := { d with submissions := d.submissions + 1 }
  (d.submissions,
    match script.submitError with
    | some error => d.raise (some error)
    | none => commands.foldl (execute script) d)

/-- The bytes of a buffer as its mapped range shows them: cut or filled with zeros if the script
gives the range another length. -/
def mappedRange (d : Device) (script : Script) (buffer : Staging) : List UInt8 :=
  let bytes := (d.staged buffer).bytes
  match script.mappedBytes.lookup (Buffer.staging buffer).label with
  | some length => bytes.take length ++ List.replicate (length - bytes.length) 0
  | none => bytes

end DualEval.Device
