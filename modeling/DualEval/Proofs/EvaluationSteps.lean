import DualEval.Proofs.CallReplay
import DualEval.Proofs.EvaluationChecks

/-!
# The steps of an evaluation

An evaluation makes one fixed sequence of calls, cut behind the first step that fails
(`DualEval.Session.evaluate_takes`).  Once the two mappings are requested, whatever happens then is
followed by their release, which leaves out a mapping whose own wait has seen the refusal.  How far
it comes is decided by the script alone, and so is its answer (`DualEval.Session.evaluate_answer`).
-/

namespace DualEval

open Device

/-! ### The steps -/

namespace Session

def encodingCalls : List Call := [
  .createCommandEncoder Labels.encoder,
  .beginComputePass Labels.pass,
  .setPipeline Labels.pipeline,
  .setBindGroup Kernel.bindGroup Labels.bindGroup,
  .dispatchWorkgroups 1 1 1,
  .endComputePass,
  .copyBuffer .result (.staging .result) Kernel.resultByteCount,
  .copyBuffer .diagnostics (.staging .diagnostics) Diagnostics.byteCount,
  .finish]

/-- The calls of a launch, whose scope catches an error or none. -/
def launchCalls (e : Expression) (caught : Option String) : List Call :=
  .pushErrorScope :: .writeBuffer .record 0 (Record.ofExpression e).toBytes ::
    (encodingCalls ++ [.submit 1 .dispatching, .onSubmittedWorkDone, .popErrorScope caught])

end Session

namespace Device

/-- The release of a mapping behind a breakdown or none: it is left out if the breakdown says that
the mapping was refused. -/
def release (failure : Option Breakdown) (buffer : Staging) : List Call :=
  if failure = some (.mapRefused buffer) then [] else [.unmap buffer]

/-- A wait of which the poll turns out so, while that has become of its callback before. -/
def waitStep (timeout : Duration) (stage : Stage) (submission : Option Nat) (fate : Fate)
    (outcome : PollOutcome) : Step where
  calls := [.poll submission timeout outcome]
  failure := waitFailure stage outcome (fate.after outcome)

def resolveSteps (timeout : Duration) (buffer : Staging) (granted : Bool) (fate : Fate)
    (outcome : PollOutcome) : List Step :=
  [waitStep timeout (.mapping buffer.name) none fate outcome,
    { calls := [], failure := refusal buffer granted }]

namespace Script

def readStep (script : Script) (buffer : Staging) : Step where
  calls := [.getMappedRange buffer (script.rangeLength buffer)]
  failure := script.lengthFailure buffer

/-- The steps between the request of the mappings and their release, given how the two polls turn
out. -/
def readSteps (script : Script) (timeout : Duration) (first second : PollOutcome) : List Step :=
  resolveSteps timeout .result (script.grants 0) .pending first ++
    (resolveSteps timeout .diagnostics (script.grants 1) (Fate.pending.after first) second ++
      [script.readStep .result, script.readStep .diagnostics])

/-- The calls of a readback once its mappings are requested. -/
def readCalls (script : Script) (timeout : Duration) (first second : PollOutcome) : List Call :=
  Step.performed (script.readSteps timeout first second) ++
    (release ((script.readbackChecks first second).findSome? id) .diagnostics ++
      release ((script.readbackChecks first second).findSome? id) .result)

def readbackStep (script : Script) (timeout : Duration) (first second : PollOutcome) : Step where
  calls := .mapAsync .result (script.grants 0) :: .mapAsync .diagnostics (script.grants 1) ::
    script.readCalls timeout first second
  failure := (script.readbackChecks first second).findSome? id

/-- The steps of a dispatch that makes the submission of this number. -/
def dispatchSteps (script : Script) (timeout : Duration) (e : Expression) (submission : Nat) :
    List Step :=
  [{ calls := Session.launchCalls e script.submitError
     failure := script.submitError.map .rejected },
    waitStep timeout .submission (some submission) .pending (script.pollOutcome 0),
    script.readbackStep timeout (script.pollOutcome 1) (script.pollOutcome 2)]

end Script

end Device

theorem findSome?_joined (earlier later : List (Option Breakdown)) :
    (earlier ++ [later.findSome? id]).findSome? id = (earlier ++ later).findSome? id := by
  have last : [later.findSome? id].findSome? id = later.findSome? id := by
    rw [List.findSome?_cons]
    cases later.findSome? id <;> rfl
  rw [List.findSome?_append, List.findSome?_append, last]

theorem verdict_joined {α : Type} (earlier later : List (Option Breakdown)) (a : α) :
    verdict (earlier ++ [later.findSome? id]) a = verdict (earlier ++ later) a := by
  rw [verdict, verdict, findSome?_joined]

/-- The steps of a dispatch fail as its checks do. -/
theorem Device.Script.failure_dispatchSteps (script : Script) (timeout : Duration) (e : Expression)
    (submission : Nat) :
    (Step.checks (script.dispatchSteps timeout e submission)).findSome? id =
      script.checks.findSome? id :=
  findSome?_joined [_, _] _

namespace Session

variable {rig : Rig} {callback : Callback} {fate : Fate} {output : Output}

theorem encodingCalls_still : ∀ call ∈ encodingCalls, call.Still := by
  simp [encodingCalls, Call.Still, Call.effect]

theorem launch_makes (e : Expression) (rig : Rig) :
    rig.Makes (launchCalls e rig.bench.script.submitError) (launch e rig).2 := by
  have caught : (Action.onWorkDone (submitted e rig)).2.device.popScope.1 =
      rig.bench.script.submitError := by
    have scopes : (Action.onWorkDone (submitted e rig)).2.device.scopes = _ := scopes_submitted e rig
    rw [popScope, scopes]
  have opened := Action.pushScope_makes rig
  have uploaded := opened.trans (Action.writeRecord_makes (Record.ofExpression e).toBytes _)
  have encoded := uploaded.trans (Action.noteAll_makes encodingCalls_still _)
  have submitted := encoded.trans (Action.submit_makes commands _)
  have registered := submitted.trans (Action.onWorkDone_makes _)
  have closed := registered.trans (Action.popScope_makes _)
  rw [launch_rig, ← caught]
  exact closed

theorem poll_makes (submission : Option Nat) (timeout : Duration) (rig : Rig) :
    rig.Makes [.poll submission timeout (rig.bench.script.pollOutcome 0)]
      (Action.poll submission timeout rig).2 := by
  rw [← Script.headD_polls]
  exact Action.poll_makes submission timeout rig

theorem await_takes (tracks : rig.device.Tracks callback fate) (timeout : Duration)
    (stage : Stage) (submission : Option Nat) :
    (await timeout stage submission callback.signal).Takes rig
      [waitStep timeout stage submission fate (rig.bench.script.pollOutcome 0)]
      callback.report := by
  constructor
  · exact await_answer tracks timeout stage submission
  · rw [await_rig, Step.performed_singleton]
    exact poll_makes submission timeout rig

theorem resolve_takes (tracks : rig.device.Tracks callback fate) (timeout : Duration)
    (buffer : Staging) :
    (resolve timeout buffer callback.signal).Takes rig
      (resolveSteps timeout buffer callback.report fate (rig.bench.script.pollOutcome 0)) () := by
  constructor
  · exact resolve_answer tracks timeout buffer
  · rw [resolve_rig, resolveSteps, Step.performed_check]
    exact poll_makes none timeout rig

theorem readRange_takes (stages : rig.device.Stages output) (buffer : Staging) :
    (readRange buffer).Takes rig [rig.bench.script.readStep buffer] (output.data buffer) := by
  constructor
  · exact readRange_answer stages buffer
  · rw [readRange_rig, Step.performed_singleton, Script.readStep, ← length_mappedRange stages]
    exact Action.mappedRange_makes buffer rig

theorem pure_takes {α : Type} (a : α) (rig : Rig) : (pure a : Action α).Takes rig [] a :=
  ⟨rfl, Rig.Makes.refl rig⟩

theorem readRanges_takes (stages : rig.device.Stages output) :
    readRanges.Takes rig [rig.bench.script.readStep .result, rig.bench.script.readStep .diagnostics]
      output := by
  refine Action.bind_takes (readRange_takes stages .result) fun _ => ?_
  rw [readRange_rig]
  have after : (Action.mappedRange .result rig).2.device.Stages output := stages
  exact Action.bind_takes (readRange_takes after .diagnostics) fun _ => pure_takes _ _

theorem readMapped_takes {granted granted' : Bool} {signal signal' : Nat}
    (result : rig.device.Tracks (.mapping .result granted signal) .pending)
    (diagnostics : rig.device.Tracks (.mapping .diagnostics granted' signal') .pending)
    (stages : rig.device.Stages output) (timeout : Duration) :
    (readMapped timeout signal signal').Takes rig
      (resolveSteps timeout .result granted .pending (rig.bench.script.pollOutcome 0) ++
        (resolveSteps timeout .diagnostics granted'
            (Fate.pending.after (rig.bench.script.pollOutcome 0))
            (rig.bench.script.pollOutcome 1) ++
          [rig.bench.script.readStep .result, rig.bench.script.readStep .diagnostics]))
      output := by
  refine Action.bind_takes (resolve_takes result timeout .result) fun _ => ?_
  have between := diagnostics.poll (rig.bench.script.pollOutcome 0)
  rw [← poll_device none timeout] at between
  rw [resolve_rig, ← Script.pollOutcome_tail]
  refine Action.bind_takes (resolve_takes between timeout .diagnostics) fun _ => ?_
  rw [resolve_rig]
  have staged := (stages.poll (rig.bench.script.pollOutcome 0)).poll
    ((Action.poll none timeout rig).2.bench.script.pollOutcome 0)
  rw [← poll_device none timeout, ← poll_device none timeout] at staged
  exact readRanges_takes staged

theorem giveBack_makes {α : Type} (checks : List (Option Breakdown)) (a : α) (buffer : Staging)
    (rig : Rig) :
    rig.Makes (release (checks.findSome? id) buffer) (giveBack buffer (verdict checks a) rig).2 := by
  rw [verdict, release]
  cases checks.findSome? id with
  | none => exact Action.unmap_makes buffer rig
  | some breakdown =>
    cases breakdown with
    | mapRefused refused =>
      by_cases same : refused = buffer
      · subst same
        rw [if_pos rfl]
        simp only [giveBack, if_pos]
        exact Rig.Makes.refl rig
      · rw [if_neg (by simp [same])]
        simp only [giveBack, if_neg same]
        exact Action.unmap_makes buffer rig
    | rejected error => exact Action.unmap_makes buffer rig
    | wait stage cause => exact Action.unmap_makes buffer rig
    | wrongLength owner expected actual => exact Action.unmap_makes buffer rig

theorem requested_makes (rig : Rig) :
    rig.Makes [.mapAsync .result (rig.bench.script.grants 0),
      .mapAsync .diagnostics (rig.bench.script.grants 1)] (requested rig) := by
  rw [← Script.headD_maps, ← Script.grants_tail, ← Script.headD_maps]
  exact (Action.mapAsync_makes .result rig).trans (Action.mapAsync_makes .diagnostics _)

theorem tracks_requested_result (fresh : rig.device.Fresh) :
    (requested rig).device.Tracks
      (.mapping .result (rig.bench.script.grants 0) rig.device.nextSignal) .pending := by
  rw [← Script.headD_maps]
  exact (fresh.tracks_mapAsync _ _).mapAsync _ _

theorem tracks_requested_diagnostics (fresh : rig.device.Fresh) :
    (requested rig).device.Tracks
      (.mapping .diagnostics (rig.bench.script.grants 1) (rig.device.nextSignal + 1)) .pending := by
  rw [← Script.grants_tail, ← Script.headD_maps]
  exact (fresh.mapAsync _ _).tracks_mapAsync _ _

theorem collect_takes (fresh : rig.device.Fresh) (stages : rig.device.Stages output)
    (timeout : Duration) :
    (collect timeout).Takes rig [rig.bench.script.readbackStep timeout
      (rig.bench.script.pollOutcome 0) (rig.bench.script.pollOutcome 1)] output := by
  have staged : (requested rig).device.Stages output := (stages.mapAsync _ _).mapAsync _ _
  have read := readMapped_takes (tracks_requested_result fresh) (tracks_requested_diagnostics fresh)
    staged timeout
  obtain ⟨answer, calls⟩ := read
  constructor
  · rw [collect_eq]
    exact answer.trans (verdict_joined [] _ _).symm
  · rw [Step.performed_singleton, collect_eq]
    simp only [answer]
    refine (requested_makes rig).trans (calls.trans ?_)
    exact (giveBack_makes _ output .diagnostics _).trans (giveBack_makes _ output .result _)

theorem launch_takes (e : Expression) (rig : Rig) :
    (launch e).Takes rig
      [{ calls := launchCalls e rig.bench.script.submitError
         failure := rig.bench.script.submitError.map .rejected }]
      (rig.device.submissions + 1, rig.device.nextSignal) := by
  constructor
  · exact launch_answer e rig
  · rw [Step.performed_singleton]
    exact launch_makes e rig

/-- The rig of an evaluation once the wait for its submission has polled. -/
def finished (timeout : Duration) (e : Expression) (rig : Rig) : Rig :=
  (Action.poll (some (rig.device.submissions + 1)) timeout (launch e rig).2).2

theorem finished_device (timeout : Duration) (e : Expression) (rig : Rig) :
    (finished timeout e rig).device =
      (launch e rig).2.device.poll (rig.bench.script.pollOutcome 0) := by
  rw [finished, poll_device, script_launch]

theorem fresh_finished (fresh : rig.device.Fresh) (timeout : Duration) (e : Expression) :
    (finished timeout e rig).device.Fresh := by
  rw [finished_device]
  exact (fresh_launch fresh e).poll _

theorem script_finished (timeout : Duration) (e : Expression) (rig : Rig) :
    (finished timeout e rig).bench.script =
      { rig.bench.script with polls := rig.bench.script.polls.tail } := by
  rw [← script_launch e rig]
  rfl

theorem pollOutcome_finished (timeout : Duration) (e : Expression) (rig : Rig) (n : Nat) :
    (finished timeout e rig).bench.script.pollOutcome n = rig.bench.script.pollOutcome (n + 1) := by
  rw [script_finished, Script.pollOutcome_tail]

theorem grants_finished (timeout : Duration) (e : Expression) (rig : Rig) (n : Nat) :
    (finished timeout e rig).bench.script.grants n = rig.bench.script.grants n := by
  rw [script_finished]
  rfl

/-- **The steps of an evaluation**, whatever earlier work has left on the device. -/
theorem evaluate_takes (fresh : rig.device.Fresh) (timeout : Duration) (e : Expression) :
    (evaluate timeout e).Takes rig
      (rig.bench.script.dispatchSteps timeout e (rig.device.submissions + 1))
      (rig.bench.script.written e) := by
  refine Action.bind_takes (launch_takes e rig) fun passed => ?_
  have accepted : rig.bench.script.submitError = none := by
    simpa [Step.checks] using passed
  have waiting := await_takes (tracks_launch fresh e) timeout .submission
    (some (rig.device.submissions + 1))
  rw [script_launch] at waiting
  refine Action.bind_takes waiting fun _ => ?_
  have stages := (stages_launch accepted e).poll (rig.bench.script.pollOutcome 0)
  rw [← finished_device timeout] at stages
  have read := collect_takes (fresh_finished fresh timeout e) stages timeout
  rw [script_finished, Script.pollOutcome_tail, Script.pollOutcome_tail] at read
  rw [await_rig]
  exact read

/-- **An evaluation passes its checks in order**, whatever earlier work has left on the device, and
answers what is written for the expression. -/
theorem evaluate_answer (fresh : rig.device.Fresh) (timeout : Duration) (e : Expression) :
    (evaluate timeout e rig).1 =
      verdict rig.bench.script.checks (rig.bench.script.written e) := by
  rw [(evaluate_takes fresh timeout e).answer]
  exact verdict_joined [_, _] _ _

end Session

end DualEval
