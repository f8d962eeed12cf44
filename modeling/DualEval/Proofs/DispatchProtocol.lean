import DualEval.Proofs.DispatchAnswer
import DualEval.Proofs.Lifecycle

/-!
# The protocol of a dispatch

A dispatch follows one protocol of six phases, each of which ends with a call that can fail.  It is
cut behind the phase that fails, and once the mappings are requested it ends with their release.
The number under which it waits for its submission can be read off the record: it counts the
submissions since the device was asked for.
-/

namespace DualEval

open Device

namespace Device

/-! ### The phases -/

/-- The phases of a dispatch. -/
inductive Phase where
  | launch
  | submission
  | mapping (buffer : Staging)
  | range (buffer : Staging)
deriving DecidableEq

namespace Phase

def all : List Phase := [
  launch,
  submission,
  mapping .result,
  mapping .diagnostics,
  range .result,
  range .diagnostics]

/-- The calls of a phase in a dispatch that makes the submission of this number.  How the polls, the
mappings and the ranges turn out is for the script to say. -/
def calls (script : Script) (timeout : Duration) (e : Expression) (number : Nat) :
    Phase → List Call
  | launch => [
    .pushErrorScope,
    .writeBuffer .record 0 (Record.ofExpression e).toBytes,
    .createCommandEncoder Session.Labels.encoder,
    .beginComputePass Session.Labels.pass,
    .setPipeline Session.Labels.pipeline,
    .setBindGroup 0 Session.Labels.bindGroup,
    .dispatchWorkgroups 1 1 1,
    .endComputePass,
    .copyBuffer .result (.staging .result) 4,
    .copyBuffer .diagnostics (.staging .diagnostics) 64,
    .finish,
    .submit 1 .dispatching,
    .onSubmittedWorkDone,
    .popErrorScope script.submitError]
  | submission => [.poll (some number) timeout (script.pollOutcome 0)]
  | mapping .result => [
    .mapAsync .result (script.grants 0),
    .mapAsync .diagnostics (script.grants 1),
    .poll none timeout (script.pollOutcome 1)]
  | mapping .diagnostics => [.poll none timeout (script.pollOutcome 2)]
  | range buffer => [.getMappedRange buffer (script.rangeLength buffer)]

/-- The phase that a breakdown ends. -/
def endedBy : Breakdown → Phase
  | .rejected _ => launch
  | .wait .submission _ => submission
  | .wait (.mapping name) _ =>
    mapping (if name = Staging.result.name then .result else .diagnostics)
  | .mapRefused buffer => mapping buffer
  | .wrongLength buffer _ _ => range buffer

/-- The phases of a dispatch that meets this breakdown, or none. -/
def reached : Option Breakdown → List Phase
  | some breakdown => all.take (all.idxOf (endedBy breakdown) + 1)
  | none => all

/-- No phase is left out before the last one that is reached. -/
theorem reached_prefix (failure : Option Breakdown) : reached failure <+: all := by
  cases failure with
  | none => exact List.prefix_rfl
  | some breakdown => exact List.take_prefix _ _

end Phase

/-- The calls of a dispatch that meets this breakdown, or none: those of the phases it reaches and,
once the mappings are requested, their release. -/
def transcript (script : Script) (timeout : Duration) (e : Expression) (number : Nat)
    (failure : Option Breakdown) : List Call :=
  (Phase.reached failure).flatMap (Phase.calls script timeout e number) ++
    if .mapping .result ∈ Phase.reached failure then
      release failure .diagnostics ++ release failure .result
    else []

section Courses

variable {script : Script} {timeout : Duration} {e : Expression} {number : Nat}
  {calls : List Call} {failure : Option Breakdown}

theorem endedBy_lengthFailure {buffer : Staging} {breakdown : Breakdown}
    (unread : script.lengthFailure buffer = some breakdown) :
    Phase.endedBy breakdown = .range buffer := by
  unfold Script.lengthFailure at unread
  split at unread
  · cases unread
  · cases unread
    rfl

/-- The calls of a dispatch that comes to request its mappings. -/
theorem transcript_of_requested {phases : List Phase}
    (reached : Phase.reached failure = .launch :: .submission :: .mapping .result :: phases)
    (accepted : script.submitError = none) (done : script.pollOutcome 0 = .ok) :
    transcript script timeout e number failure =
      Session.launchCalls e none ++ .poll (some number) timeout .ok ::
        .mapAsync .result (script.grants 0) :: .mapAsync .diagnostics (script.grants 1) ::
          .poll none timeout (script.pollOutcome 1) ::
            (phases.flatMap (Phase.calls script timeout e number) ++
              (release failure .diagnostics ++ release failure .result)) := by
  have launched : Phase.launch.calls script timeout e number = Session.launchCalls e none := by
    rw [← accepted]
    rfl
  have waited : Phase.submission.calls script timeout e number =
      [.poll (some number) timeout .ok] := by
    rw [← done]
    rfl
  have requested : .mapping .result ∈ Phase.launch :: .submission :: .mapping .result :: phases := by
    simp
  rw [transcript, reached, if_pos requested, List.flatMap_cons, List.flatMap_cons, launched, waited,
    List.append_assoc]
  rfl

/-- **Every way a dispatch can go follows the protocol.** -/
theorem Dispatching.eq_transcript (course : Dispatching script timeout e number calls failure) :
    calls = transcript script timeout e number failure := by
  cases course with
  | @rejected error rejected =>
    have reached : Phase.reached (some (.rejected error)) = [.launch] := rfl
    rw [transcript, reached, ← rejected]
    rfl
  | @unfinished cause accepted unfired =>
    have reached : Phase.reached (some (.wait .submission cause)) = [.launch, .submission] := rfl
    rw [transcript, reached, ← accepted]
    rfl
  | readBack accepted done course =>
    -- the calls up to the first wait for a mapping are the same in all these cases
    cases course with
    | unfired unfired =>
      rw [transcript_of_requested rfl accepted done]
      rfl
    | resultRefused fired refused =>
      rw [transcript_of_requested rfl accepted done, fired]
      rfl
    | brokenOff fired granted broken =>
      rw [transcript_of_requested rfl accepted done, fired]
      rfl
    | diagnosticsRefused fired granted heard refused =>
      rw [transcript_of_requested rfl accepted done, fired]
      rfl
    | @resultUnread breakdown fired granted heard granted' unread =>
      have reached : Phase.reached (some breakdown) =
          [.launch, .submission, .mapping .result, .mapping .diagnostics, .range .result] := by
        rw [Phase.reached, endedBy_lengthFailure unread]
        rfl
      -- a wrong length refuses no mapping, so both buffers are unmapped
      have unmapped (buffer : Staging) : release (some breakdown) buffer = [.unmap buffer] :=
        release_of_ne (unread ▸ lengthFailure_ne script .result buffer)
      rw [transcript_of_requested reached accepted done, fired, unmapped, unmapped]
      rfl
    | read fired granted heard granted' readResult =>
      have reached : Phase.reached (script.lengthFailure .diagnostics) = Phase.all := by
        cases unread : script.lengthFailure .diagnostics with
        | none => rfl
        | some breakdown =>
          rw [Phase.reached, endedBy_lengthFailure unread]
          rfl
      have unmapped (buffer : Staging) :
          release (script.lengthFailure .diagnostics) buffer = [.unmap buffer] :=
        release_of_ne (lengthFailure_ne script .diagnostics buffer)
      rw [transcript_of_requested reached accepted done, fired, unmapped, unmapped]
      rfl

end Courses

/-! ### The number of a submission -/

/-- The number of the latest submission to the device asked for last, after one more call. -/
def Call.count (number : Nat) : Call → Nat
  | requestDevice _ => 0
  | submit _ _ => number + 1
  | _ => number

def Bench.calls (bench : Bench) : List Call := bench.log.map Entry.call

/-- The number of submissions since a device was asked for. -/
def Bench.submissions (bench : Bench) : Nat := bench.calls.foldl Call.count 0

/-- A dispatch makes one submission on record, however it ends. -/
theorem Dispatching.count {script : Script} {timeout : Duration} {e : Expression} {number : Nat}
    {calls : List Call} {failure : Option Breakdown}
    (course : Dispatching script timeout e number calls failure) (earlier : Nat) :
    calls.foldl Call.count earlier = earlier + 1 := by
  cases course with
  | rejected rejected => rfl
  | unfinished accepted unfired => rfl
  | readBack accepted done course => cases course <;> rfl

end Device

namespace Session

theorem BringingUp.count {script : Script} {settings : AcceleratorSettings} {observed : Bool}
    {calls : List Call} (course : BringingUp script settings observed calls none) (earlier : Nat) :
    calls.foldl Call.count earlier = 0 := by
  cases course
  rfl

end Session

namespace Station

/-- The device of the session, if there is one, numbers its submissions as they are on record. -/
def Numbered (station : Station) : Prop :=
  ∀ session, station.session = some session →
    session.device.submissions = station.bench.submissions

variable {station : Station}

theorem calls_serve (rests : station.Rests) (request : Request) :
    (station.serve request).bench.calls = station.bench.calls ++ station.calls request := by
  rw [Bench.calls, log_serve rests, List.map_append, Call.map_call_entries]
  rfl

theorem submissions_serve (rests : station.Rests) (request : Request) :
    (station.serve request).bench.submissions =
      (station.calls request).foldl Call.count station.bench.submissions := by
  rw [Bench.submissions, calls_serve rests, List.foldl_append]
  rfl

theorem numbered_serve (rests : station.Rests) (numbered : station.Numbered) (request : Request) :
    (station.serve request).Numbered := by
  intro session present
  rw [submissions_serve rests]
  cases request with
  | setScript script => exact numbered session present
  | bringUp settings observed =>
    rw [serve] at present
    rw [calls]
    cases held : station.session with
    | some standing =>
      rw [bringUp_of_session held] at present
      exact numbered session present
    | none =>
      have course := Session.bringingUp_bringUpCalls station.bench.script settings observed
      rw [session_bringUp held] at present
      -- a session comes up only if the script has no error for it
      cases raised : station.bench.script.bringUpError with
      | some error =>
        rw [raised] at present
        cases present
      | none =>
        rw [raised] at present course
        cases present
        exact (course.count station.bench.submissions).symm
  | dispatch settings e =>
    rw [serve] at present
    rw [calls]
    cases held : station.session with
    | some before =>
      rw [dispatch_of_session held] at present
      cases present
      rw [(dispatching_dispatchSteps _ _ _ _).count, ← numbered before held]
      exact Session.submissions_evaluate _ _ _
    | none =>
      rw [dispatch_of_none held, held] at present
      cases present
  | shutDown =>
    rw [serve] at present
    cases held : station.session with
    | some before =>
      rw [shutDown_of_session held] at present
      cases present
    | none =>
      rw [shutDown_of_none held, held] at present
      cases present

theorem numbered_after (requests : List Request) : (after requests).Numbered := by
  induction requests using List.reverseRecOn with
  | nil =>
    intro session present
    cases present
  | append_singleton requests request ih =>
    rw [after_concat]
    exact numbered_serve (rests_after requests) ih request

/-! ### The protocol -/

/-- **The calls of a dispatch follow one protocol.** After any run of requests that leaves a session
and with any script newly put in force, a dispatch makes one submission, whichever check of the
script it fails, if any.  It goes through the phases of the protocol from the first on, up to the one
that the failure ends, and then releases the mappings, if it has requested them.  It waits for its
own submission, and each wait is bounded by the time in the settings, but by a millisecond at
least. -/
theorem dispatch_protocol (requests : List Request) (script : Script)
    (settings : AcceleratorSettings) (e : Expression)
    (ready : deviceAccelerator.lifecycle (after requests) = .ready) :
    let station := (after requests).withScript script
    let reply := station.dispatch settings e
    let timeout := Duration.ofMilliseconds (max 1 settings.readbackTimeoutMs)
    reply.answer = script.answer timeout e ∧
    reply.state.bench.submissions = station.bench.submissions + 1 ∧
    Phase.reached (script.checks.findSome? id) <+: Phase.all ∧
    reply.state.bench.calls = station.bench.calls ++
      transcript script timeout e reply.state.bench.submissions (script.checks.findSome? id) ∧
    (Record.ofExpression e).toBytes.length = 16 := by
  intro station reply timeout
  obtain ⟨session, present⟩ := session_of_ready ready
  have held : station.session = some session := present
  -- to put a script in force is a request, so what runs keep holds of this station as well
  have rests : station.Rests := rests_serve (rests_after requests) (.setScript script)
  have numbered : station.Numbered :=
    numbered_serve (rests_after requests) (numbered_after requests) (.setScript script)
  have bounded : settings.readbackTimeout = timeout := by
    rw [AcceleratorSettings.readbackTimeout, Nat.max_comm]
  have course := dispatching_dispatchSteps script timeout e (session.device.submissions + 1)
  rw [script.failure_dispatchSteps] at course
  have made : station.calls (.dispatch settings e) =
      Step.performed (script.dispatchSteps timeout e (session.device.submissions + 1)) := by
    rw [calls, held, bounded]
    rfl
  have counted : reply.state.bench.submissions = station.bench.submissions + 1 := by
    refine (submissions_serve rests (.dispatch settings e)).trans ?_
    rw [made, course.count]
  have called : reply.state.bench.calls = station.bench.calls ++
      transcript script timeout e reply.state.bench.submissions (script.checks.findSome? id) := by
    refine (calls_serve rests (.dispatch settings e)).trans ?_
    rw [made, course.eq_transcript, numbered session held, counted]
  exact ⟨answer_of_rests held (rests session held) settings e, counted, Phase.reached_prefix _,
    called, rfl⟩

/-- A dispatch whose wait for the result runs out of time is cut there. -/
theorem dispatch_cut_at_result :
    let e : Expression := {
      operator := .multiply
      left := .ofBits 0x40000000
      right := .ofBits 0x40400000 }
    let script : Script := { polls := [.ok, .timeout] }
    let station := (after [.bringUp {} false]).withScript script
    let timeout := Duration.ofMilliseconds 5000
    deviceAccelerator.lifecycle (after [.bringUp {} false]) = .ready ∧
    (station.dispatch {} e).state.bench.calls = station.bench.calls ++
      (Phase.launch.calls script timeout e 1 ++ [
        .poll (some 1) timeout .ok,
        .mapAsync .result true,
        .mapAsync .diagnostics true,
        .poll none timeout .timeout,
        .unmap .diagnostics,
        .unmap .result]) := by
  intro e script station timeout
  have ready : deviceAccelerator.lifecycle (after [.bringUp {} false]) = .ready := rfl
  obtain ⟨_, counted, _, called, _⟩ := dispatch_protocol [.bringUp {} false] script {} e ready
  have first : station.bench.submissions = 0 := rfl
  rw [first] at counted
  rw [counted] at called
  exact ⟨ready, called⟩

end Station

end DualEval
