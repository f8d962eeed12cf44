import DualEval.Accelerator.Basic
import DualEval.Device.Script
import DualEval.Settings.Json

/-!
# Calls

The calls that a session makes on its adapter and its device, as a device records them, and the
form in which they are written down.
-/

namespace DualEval.Device

/-- One call, with what came of it where that is part of the record. -/
inductive Call where
  | requestAdapter (preference : PowerPreference) (fallback : Bool) (seen : Option SessionState)
  | requestDevice (label : String)
  | pushErrorScope
  | popErrorScope (report : Option String)
  | createBindGroupLayout (label : String) (bindings : List Kernel.Binding)
  | createPipelineLayout (label : String) (groups : List String)
  | createShaderModule (label : String)
  | createComputePipeline (label layout module entryPoint : String)
  | createBuffer (buffer : Buffer)
  | createBindGroup (label layout : String) (entries : List (Nat × Buffer))
  | writeBuffer (buffer : Buffer) (offset : Nat) (bytes : List UInt8)
  | createCommandEncoder (label : String)
  | beginComputePass (label : String)
  | setPipeline (label : String)
  | setBindGroup (group : Nat) (label : String)
  | dispatchWorkgroups (x y z : Nat)
  | endComputePass
  | copyBuffer (source target : Buffer) (byteCount : Nat)
  | finish
  | submit (commandBuffers : Nat) (seen : SessionState)
  | onSubmittedWorkDone
  | poll (submission : Option Nat) (timeout : Duration) (outcome : PollOutcome)
  | mapAsync (buffer : Staging) (granted : Bool)
  | getMappedRange (buffer : Staging) (byteCount : Nat)
  | unmap (buffer : Staging)
  | dropDevice
deriving DecidableEq

/-- The written form of a poll's outcome. -/
def PollOutcome.toJson : PollOutcome → Json
  | ok => .text "ok"
  | silent => .text "silent"
  | drop => .text "drop"
  | timeout => .text "timeout"
  | wrongIndex asked last => .list [.integer asked, .integer last]

namespace Call

/-- Two lower-case hexadecimal digits for each byte. -/
def hexText (bytes : List UInt8) : String :=
  String.ofList (bytes.flatMap fun byte =>
    [Nat.digitChar (byte.toNat / 16), Nat.digitChar (byte.toNat % 16)])

def number (n : Nat) : Json := .integer n

/-- A value or null. -/
def orNull {α : Type} (write : α → Json) : Option α → Json
  | some value => write value
  | none => .null

/-- The form of a layout entry: compute stage only, storage, neither dynamic offset nor array. -/
def layoutEntry (binding : Kernel.Binding) : Json :=
  .list [number binding.number, .bool true, .bool binding.readOnly, .bool false,
    number binding.byteCount, .bool false]

/-- The written form of a call: its name, then its arguments and what came of it. -/
def toJson (call : Call) : Json :=
  .list (match call with
    | requestAdapter preference fallback seen =>
      [.text "request_adapter", .text preference.name, .bool fallback, .bool false,
        orNull (fun state => .text state.name) seen]
    | requestDevice label => [.text "request_device", .text label, .bool true, .bool true]
    | pushErrorScope => [.text "push_error_scope", .text "Validation"]
    | popErrorScope report => [.text "pop_error_scope", orNull Json.text report]
    | createBindGroupLayout label bindings =>
      [.text "create_bind_group_layout", .text label, .list (bindings.map layoutEntry)]
    | createPipelineLayout label groups =>
      [.text "create_pipeline_layout", .text label, .list (groups.map .text), number 0]
    | createShaderModule label => [.text "create_shader_module", .text label]
    | createComputePipeline label layout module entryPoint =>
      [.text "create_compute_pipeline", .text label, .text layout, .text module,
        .text entryPoint]
    | createBuffer buffer =>
      [.text "create_buffer", .text buffer.label, number buffer.byteCount,
        .list (buffer.usages.map .text), .bool false]
    | createBindGroup label layout entries =>
      [.text "create_bind_group", .text label, .text layout,
        .list (entries.map fun (binding, buffer) =>
          .list [number binding, .text buffer.label])]
    | writeBuffer buffer offset bytes =>
      [.text "write_buffer", .text buffer.label, number offset, .text (hexText bytes)]
    | createCommandEncoder label => [.text "create_command_encoder", .text label]
    | beginComputePass label => [.text "begin_compute_pass", .text label, .bool false]
    | setPipeline label => [.text "set_pipeline", .text label]
    | setBindGroup group label =>
      [.text "set_bind_group", number group, .text label, .list []]
    | dispatchWorkgroups x y z => [.text "dispatch_workgroups", number x, number y, number z]
    | endComputePass => [.text "end_compute_pass"]
    | copyBuffer source target byteCount =>
      [.text "copy_buffer_to_buffer", .text source.label, number 0, .text target.label, number 0,
        number byteCount]
    | finish => [.text "finish"]
    | submit commandBuffers seen => [.text "submit", number commandBuffers, .text seen.name]
    | onSubmittedWorkDone => [.text "on_submitted_work_done"]
    | poll submission timeout outcome =>
      [.text "poll", orNull number submission, .text (toString timeout.nanoseconds),
        outcome.toJson]
    | mapAsync buffer granted =>
      [.text "map_async", .text (Buffer.staging buffer).label, .text "Read",
        .text (if granted then "ok" else "error")]
    | getMappedRange buffer byteCount =>
      [.text "get_mapped_range", .text (Buffer.staging buffer).label, number byteCount]
    | unmap buffer => [.text "unmap", .text (Buffer.staging buffer).label]
    | dropDevice => [.text "drop_device"])

end Call

end DualEval.Device
