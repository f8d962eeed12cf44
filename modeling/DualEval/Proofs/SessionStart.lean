import DualEval.Proofs.CallReplay
import DualEval.Session.Basic

/-!
# Bringing a session up

What bringing a session up calls, answers and leaves behind is decided by three entries of the
script: the adapter, the device and the kernel may each be refused, and the first refusal ends it.
A device that was made before is given back then, and no buffer has been made.
-/

namespace DualEval

open Device

namespace Device

namespace Script

/-- Why a session cannot be brought up under a script. -/
def bringUpError (script : Script) : Option AcceleratorError :=
  match script.adapterError, script.deviceError, script.pipelineError with
  | some reason, _, _ => some (.unavailable reason)
  | none, some reason, _ => some (.unavailable reason)
  | none, none, some reason => some (.kernelCompilation reason)
  | none, none, none => none

/-- Whether a device is made when a session is brought up. -/
def makesDevice (script : Script) : Bool := script.adapterError.isNone && script.deviceError.isNone

end Script

end Device

namespace Session

/-- The calls that compile the kernel within a scope, which catches an error or none. -/
def pipelineCalls (caught : Option String) : List Call := [
  .pushErrorScope,
  .createBindGroupLayout Labels.bindGroupLayout Kernel.bindings,
  .createPipelineLayout Labels.pipelineLayout [Labels.bindGroupLayout],
  .createShaderModule Kernel.moduleName,
  .createComputePipeline Labels.pipeline Labels.pipelineLayout Kernel.moduleName Kernel.entryPoint,
  .popErrorScope caught]

def bufferCalls : List Call :=
  Buffer.all.map Call.createBuffer ++
    [.createBindGroup Labels.bindGroup Labels.bindGroupLayout
      [(Kernel.recordBinding.number, .record), (Kernel.resultBinding.number, .result),
        (Kernel.diagnosticsBinding.number, .diagnostics)]]

def furnishCalls (caught : Option String) : List Call :=
  pipelineCalls caught ++ if caught.isSome then [] else bufferCalls

variable {rig : Rig}

theorem buildPipeline_apply (rig : Rig) :
    buildPipeline rig = (.ok rig.bench.script.pipelineError,
      { bench := { rig.bench with history := (buildPipeline rig).2.bench.history },
        device := rig.device }) := rfl

theorem buildPipeline_makes (rig : Rig) :
    rig.Makes (pipelineCalls rig.bench.script.pipelineError) (buildPipeline rig).2 := by
  have layouts : ∀ call ∈ [Call.createBindGroupLayout Labels.bindGroupLayout Kernel.bindings,
      .createPipelineLayout Labels.pipelineLayout [Labels.bindGroupLayout],
      .createShaderModule Kernel.moduleName], call.Still := by
    simp [Call.Still, Call.effect]
  have opened := Action.pushScope_makes rig
  have noted := opened.trans (Action.noteAll_makes layouts _)
  have compiled := noted.trans (Action.createPipeline_makes (.createComputePipeline
    Labels.pipeline Labels.pipelineLayout Kernel.moduleName Kernel.entryPoint) (fun _ _ => rfl) _)
  exact compiled.trans (Action.popScope_makes _)

theorem bufferCalls_still : ∀ call ∈ bufferCalls, call.Still := by
  simp [bufferCalls, Buffer.all, Call.Still, Call.effect]

/-- Furnishing leaves its calls on record and nothing else, and answers what the script has for the
kernel. -/
theorem furnish_apply (rig : Rig) :
    furnish rig = (.ok rig.bench.script.pipelineError,
      { bench := { rig.bench with history := (furnish rig).2.bench.history },
        device := rig.device }) := by
  rw [furnish, Action.bind_apply_of_ok (buildPipeline_apply rig)]
  cases rig.bench.script.pipelineError <;> rfl

theorem furnish_makes (rig : Rig) :
    rig.Makes (furnishCalls rig.bench.script.pipelineError) (furnish rig).2 := by
  have built := buildPipeline_makes rig
  have run := buildPipeline_apply rig
  rw [furnish, Action.bind_apply, run, furnishCalls]
  rw [run] at built
  cases caught : rig.bench.script.pipelineError with
  | some error =>
    rw [caught] at built
    exact built
  | none =>
    rw [caught] at built
    exact built.trans (Action.noteAll_makes bufferCalls_still _)

/-! ### Acquiring -/

variable {bench : Bench} {settings : AcceleratorSettings} {observed : Bool}

def adapterCall (settings : AcceleratorSettings) (observed : Bool) : Call :=
  .requestAdapter settings.powerPreference settings.forceFallbackAdapter
    (if observed then some .dispatching else none)

/-- The calls that bring a session up, as far as the script lets it come. -/
def bringUpCalls (script : Script) (settings : AcceleratorSettings) (observed : Bool) : List Call :=
  adapterCall settings observed ::
    if script.adapterError.isSome then []
    else .requestDevice Labels.device ::
      if script.deviceError.isSome then []
      else furnishCalls script.pipelineError ++
        if script.pipelineError.isSome then [.dropDevice] else []

/-- The ways in which bringing a session up can go: the calls made, and the error, if any. -/
inductive BringingUp (script : Script) (settings : AcceleratorSettings) (observed : Bool) :
    List Call → Option AcceleratorError → Prop where
  | noAdapter {reason : String} (absent : script.adapterError = some reason) :
      BringingUp script settings observed [adapterCall settings observed]
        (some (.unavailable reason))
  | noDevice {reason : String} (found : script.adapterError = none)
      (absent : script.deviceError = some reason) :
      BringingUp script settings observed
        [adapterCall settings observed, .requestDevice Labels.device] (some (.unavailable reason))
  | kernelRefused {reason : String} (makes : script.makesDevice = true)
      (refused : script.pipelineError = some reason) :
      BringingUp script settings observed
        (adapterCall settings observed :: .requestDevice Labels.device ::
          (pipelineCalls (some reason) ++ [.dropDevice]))
        (some (.kernelCompilation reason))
  | broughtUp (makes : script.makesDevice = true) (accepted : script.pipelineError = none) :
      BringingUp script settings observed
        (adapterCall settings observed :: .requestDevice Labels.device ::
          (pipelineCalls none ++ bufferCalls))
        none

theorem bringingUp_bringUpCalls (script : Script) (settings : AcceleratorSettings)
    (observed : Bool) :
    BringingUp script settings observed (bringUpCalls script settings observed)
      script.bringUpError := by
  cases adapter : script.adapterError with
  | some reason =>
    simp only [bringUpCalls, Script.bringUpError, adapter]
    exact .noAdapter adapter
  | none =>
    cases device : script.deviceError with
    | some reason =>
      simp only [bringUpCalls, Script.bringUpError, adapter, device]
      exact .noDevice adapter device
    | none =>
      have makes : script.makesDevice = true := by
        rw [Script.makesDevice, adapter, device]
        rfl
      cases pipeline : script.pipelineError with
      | some reason =>
        simp only [bringUpCalls, Script.bringUpError, adapter, device, pipeline]
        exact .kernelRefused makes pipeline
      | none =>
        simp only [bringUpCalls, Script.bringUpError, adapter, device, pipeline]
        exact .broughtUp makes pipeline

def askedDevice (bench : Bench) (settings : AcceleratorSettings) (observed : Bool) : Bench :=
  (bench.record (adapterCall settings observed)).record (.requestDevice Labels.device)

/-- The rig with a new device on it, before it is furnished. -/
def standing (bench : Bench) (settings : AcceleratorSettings) (observed : Bool) : Rig where
  bench := { askedDevice bench settings observed with created := bench.created + 1 }
  device := {}

def furnished (bench : Bench) (settings : AcceleratorSettings) (observed : Bool) : Bench :=
  (furnish (standing bench settings observed)).2.bench

theorem acquire_furnish (bench : Bench) (settings : AcceleratorSettings) (observed : Bool) :
    acquire bench settings observed =
      match bench.script.adapterError with
      | some reason => (.error (.unavailable reason), bench.record (adapterCall settings observed))
      | none =>
        match bench.script.deviceError with
        | some reason => (.error (.unavailable reason), askedDevice bench settings observed)
        | none =>
          match furnish (standing bench settings observed) with
          | (.ok none, rig) =>
            (.ok { adapter := bench.script.adapterName, number := bench.created,
                   device := rig.device }, rig.bench)
          | (.ok (some reason), rig) =>
            (.error (.kernelCompilation reason), rig.bench.release bench.created)
          | (.error breakdown, rig) =>
            (.error (breakdown.toError settings.readbackTimeout),
              rig.bench.release bench.created) := rfl

theorem acquire_eq (bench : Bench) (settings : AcceleratorSettings) (observed : Bool) :
    acquire bench settings observed =
      match bench.script.adapterError with
      | some reason => (.error (.unavailable reason), bench.record (adapterCall settings observed))
      | none =>
        match bench.script.deviceError with
        | some reason => (.error (.unavailable reason), askedDevice bench settings observed)
        | none =>
          match bench.script.pipelineError with
          | some reason => (.error (.kernelCompilation reason),
              (furnished bench settings observed).release bench.created)
          | none =>
            (.ok { adapter := bench.script.adapterName, number := bench.created, device := {} },
              furnished bench settings observed) := by
  have run : furnish (standing bench settings observed) =
      (.ok bench.script.pipelineError,
        { bench := furnished bench settings observed, device := {} }) := by
    rw [furnished, furnish_apply]
    rfl
  rw [acquire_furnish, run]
  cases bench.script.pipelineError <;> rfl

/-- What acquiring a session answers, records and accounts for. -/
structure Acquires (bench : Bench) (settings : AcceleratorSettings) (observed : Bool)
    (outcome : Except AcceleratorError Session) (after : Bench) : Prop where
  answer : outcome = match bench.script.bringUpError with
    | some error => .error error
    | none => .ok { adapter := bench.script.adapterName, number := bench.created, device := {} }
  log : after.log =
    bench.log ++ Call.entries idle (bringUpCalls bench.script settings observed)
  created : after.created = bench.created + if bench.script.makesDevice then 1 else 0
  released : after.released =
    if bench.script.makesDevice && bench.script.pipelineError.isSome then
      bench.created :: bench.released
    else bench.released

theorem log_record (bench : Bench) (call : Call) :
    (bench.record call).log = bench.log ++ Call.entries idle [call] :=
  List.reverse_cons

theorem log_release (bench : Bench) (number : Nat) :
    (bench.release number).log = bench.log ++ Call.entries idle [.dropDevice] :=
  List.reverse_cons

theorem log_furnished (bench : Bench) (settings : AcceleratorSettings) (observed : Bool) :
    (furnished bench settings observed).log =
      bench.log ++ Call.entries idle (adapterCall settings observed ::
        .requestDevice Labels.device :: furnishCalls bench.script.pipelineError) := by
  have made := (furnish_makes (standing bench settings observed)).log
  have asked : (standing bench settings observed).bench.log =
      bench.log ++ Call.entries idle [adapterCall settings observed, .requestDevice Labels.device] := by
    change ((bench.record _).record _).log = _
    rw [log_record, log_record, List.append_assoc]
    rfl
  have device : (standing bench settings observed).device.mapping = idle := mapping_new
  rw [furnished, made, asked, device, List.append_assoc]
  rfl

theorem furnished_account (bench : Bench) (settings : AcceleratorSettings) (observed : Bool) :
    (furnished bench settings observed).created = bench.created + 1 ∧
      (furnished bench settings observed).released = bench.released := by
  rw [furnished, furnish_apply]
  exact ⟨rfl, rfl⟩

/-- **Acquiring a session**: what comes of it follows from the script. -/
theorem acquire_acquires (bench : Bench) (settings : AcceleratorSettings) (observed : Bool) :
    Acquires bench settings observed (acquire bench settings observed).1
      (acquire bench settings observed).2 := by
  obtain ⟨created, released⟩ := furnished_account bench settings observed
  have log := log_furnished bench settings observed
  rw [acquire_eq]
  cases adapter : bench.script.adapterError with
  | some reason =>
    refine ⟨?_, ?_, ?_, ?_⟩
    · simp only [Script.bringUpError, adapter]
    · rw [log_record, bringUpCalls, adapter]
      rfl
    · simp [Script.makesDevice, adapter, Bench.record]
    · simp [Script.makesDevice, adapter, Bench.record]
  | none =>
    cases device : bench.script.deviceError with
    | some reason =>
      refine ⟨?_, ?_, ?_, ?_⟩
      · simp only [Script.bringUpError, adapter, device]
      · rw [askedDevice, log_record, log_record, List.append_assoc, bringUpCalls, adapter, device]
        rfl
      · simp [Script.makesDevice, adapter, device, askedDevice, Bench.record]
      · simp [Script.makesDevice, adapter, device, askedDevice, Bench.record]
    | none =>
      have made : bench.script.makesDevice = true := by
        rw [Script.makesDevice, adapter, device]
        rfl
      cases pipeline : bench.script.pipelineError with
      | some reason =>
        refine ⟨?_, ?_, ?_, ?_⟩
        · simp only [Script.bringUpError, adapter, device, pipeline]
        · rw [log_release, log, List.append_assoc, bringUpCalls, adapter, device, pipeline]
          rfl
        · rw [made]
          exact created
        · rw [made, pipeline, ← released]
          rfl
      | none =>
        refine ⟨?_, ?_, ?_, ?_⟩
        · simp only [Script.bringUpError, adapter, device, pipeline]
        · rw [log, bringUpCalls, adapter, device, pipeline]
          rfl
        · rw [made]
          exact created
        · rw [made, pipeline]
          exact released

end Session

end DualEval
