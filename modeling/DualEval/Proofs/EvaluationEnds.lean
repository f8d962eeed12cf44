import DualEval.Proofs.DispatchCourse

/-!
# Where an evaluation ends

An evaluation waits three times, each time with one poll.  Followed as far as the poll of one of its
waits, it answers the signal waited for and leaves the rig as it is then, before anything is
released. If the signal has not arrived, the evaluation does nothing more than to release its
mappings.
-/

namespace DualEval

open Device

namespace Session

/-- The waits of an evaluation. -/
inductive Wait where
  | submission
  | mapping (buffer : Staging)

def Wait.stage : Wait → Stage
  | submission => .submission
  | mapping buffer => .mapping buffer.name

theorem Wait.stage_injective : Function.Injective Wait.stage := by
  intro wait other same
  rcases wait with _ | (_ | _) <;> rcases other with _ | (_ | _) <;>
    first | rfl | simp [stage, Staging.name] at same

/-- The readback as far as the poll of the wait for one of its mappings; the answer is the signal
waited for. -/
def collectUpTo (timeout : Duration) : Staging → Action Nat
  | .result => do
    let signal ← Action.mapAsync .result
    let _ ← Action.mapAsync .diagnostics
    let _ ← Action.poll none timeout
    pure signal
  | .diagnostics => do
    let result ← Action.mapAsync .result
    let signal ← Action.mapAsync .diagnostics
    resolve timeout .result result
    let _ ← Action.poll none timeout
    pure signal

/-- The evaluation as far as the poll of one of its waits; the answer is the signal waited for. -/
def evaluateUpTo (timeout : Duration) (e : Expression) : Wait → Action Nat
  | .submission => do
    let (submission, done) ← launch e
    let _ ← Action.poll (some submission) timeout
    pure done
  | .mapping buffer => do
    let (submission, done) ← launch e
    let _ ← await timeout .submission (some submission) done
    collectUpTo timeout buffer

def unmapAll (buffers : List Staging) (rig : Rig) : Rig :=
  buffers.foldl (fun rig buffer => (Action.unmap buffer rig).2) rig

/-- The evaluation comes as far as the poll of this wait, which leaves the rig like this, and does
nothing more than to release its mappings. -/
structure EndsAt (timeout : Duration) (e : Expression) (rig : Rig) (wait : Wait) (signal : Nat)
    (after : Rig) : Prop where
  reached : evaluateUpTo timeout e wait rig = (.ok signal, after)
  released : ∃ buffers, (evaluate timeout e rig).2 = unmapAll buffers after

/-- The evaluation ends at a wait of this stage whose signal has not arrived. -/
def EndsUnanswered (timeout : Duration) (e : Expression) (rig : Rig) (stage : Stage) : Prop :=
  ∃ wait signal after, wait.stage = stage ∧ EndsAt timeout e rig wait signal after ∧
    ∀ granted, after.device.inspect signal ≠ .arrived granted

variable {rig : Rig}

theorem seen_ne_arrived {outcome : PollOutcome} (unfired : outcome ≠ .ok) (report granted : Bool) :
    (Fate.pending.after outcome).seen report ≠ .arrived granted := by
  cases outcome with
  | ok => exact absurd rfl unfired
  | _ => exact Signal.noConfusion

/-! ### Where a readback ends -/

theorem collectUpTo_result (timeout : Duration) (rig : Rig) :
    collectUpTo timeout .result rig =
      (.ok rig.device.nextSignal, (Action.poll none timeout (requested rig)).2) := rfl

/-- A readback that breaks down in a wait releases both mappings. -/
theorem collect_of_wait {timeout : Duration} {stage : Stage} {cause : WaitFailure} {after : Rig}
    (failed : readMapped timeout rig.device.nextSignal (rig.device.nextSignal + 1) (requested rig) =
      (.error (.wait stage cause), after)) :
    (collect timeout rig).2 = unmapAll [.diagnostics, .result] after := by
  rw [collect_eq, failed]
  rfl

theorem resolve_requested (fresh : rig.device.Fresh) (timeout : Duration) :
    resolve timeout .result rig.device.nextSignal (requested rig) =
      (verdict [waitFailure (.mapping Staging.result.name) (rig.bench.script.pollOutcome 0)
          (Fate.pending.after (rig.bench.script.pollOutcome 0)),
        refusal .result (rig.bench.script.grants 0)] (),
      (Action.poll none timeout (requested rig)).2) :=
  Prod.ext (resolve_answer (tracks_requested_result fresh) timeout .result)
    (resolve_rig timeout .result _ _)

theorem collect_of_unfired (fresh : rig.device.Fresh)
    (unfired : rig.bench.script.pollOutcome 0 ≠ .ok) (timeout : Duration) :
    (collect timeout rig).2 =
      unmapAll [.diagnostics, .result] (Action.poll none timeout (requested rig)).2 := by
  obtain ⟨cause, failure⟩ := waitFailure_of_unfired (.mapping Staging.result.name) unfired
  have failed := resolve_requested fresh timeout
  rw [failure] at failed
  exact collect_of_wait (Action.bind_apply_of_error failed)

theorem inspect_polled (fresh : rig.device.Fresh) (timeout : Duration) :
    (Action.poll none timeout (requested rig)).2.device.inspect rig.device.nextSignal =
      (Fate.pending.after (rig.bench.script.pollOutcome 0)).seen (rig.bench.script.grants 0) := by
  rw [poll_device]
  exact ((tracks_requested_result fresh).poll _).inspect

def polledTwice (timeout : Duration) (rig : Rig) : Rig :=
  (Action.poll none timeout (Action.poll none timeout (requested rig)).2).2

section Fired

variable (fresh : rig.device.Fresh) (fired : rig.bench.script.pollOutcome 0 = .ok)

include fresh fired in
theorem tracks_diagnostics (timeout : Duration) :
    (Action.poll none timeout (requested rig)).2.device.Tracks
      (.mapping .diagnostics (rig.bench.script.grants 1) (rig.device.nextSignal + 1)) .fired := by
  have polled := poll_device none timeout (requested rig)
  change _ = (requested rig).device.poll (rig.bench.script.pollOutcome 0) at polled
  rw [polled, fired]
  exact (tracks_requested_diagnostics fresh).poll .ok

include fresh fired in
/-- The first poll of a readback brings the signal of the diagnostics, and the second cannot take it
back. -/
theorem inspect_polledTwice (timeout : Duration) :
    (polledTwice timeout rig).device.inspect (rig.device.nextSignal + 1) =
      .arrived (rig.bench.script.grants 1) := by
  rw [polledTwice, poll_device]
  exact ((tracks_diagnostics fresh fired timeout).poll _).inspect

variable (granted : rig.bench.script.grants 0 = true) (timeout : Duration)

include fresh fired granted

theorem resolve_granted :
    resolve timeout .result rig.device.nextSignal (requested rig) =
      (.ok (), (Action.poll none timeout (requested rig)).2) := by
  rw [resolve_requested fresh, fired, granted]
  rfl

theorem collectUpTo_diagnostics :
    collectUpTo timeout .diagnostics rig =
      (.ok (rig.device.nextSignal + 1), polledTwice timeout rig) := by
  have unfolded : collectUpTo timeout .diagnostics rig = (do
      resolve timeout .result rig.device.nextSignal
      let _ ← Action.poll none timeout
      pure (rig.device.nextSignal + 1)) (requested rig) := rfl
  rw [unfolded, Action.bind_apply_of_ok (resolve_granted fresh fired granted timeout)]
  rfl

end Fired

/-! ### Where an evaluation ends -/

theorem inspect_finished (fresh : rig.device.Fresh) (timeout : Duration) (e : Expression) :
    (finished timeout e rig).device.inspect rig.device.nextSignal =
      (Fate.pending.after (rig.bench.script.pollOutcome 0)).seen true := by
  rw [finished_device]
  exact ((tracks_launch fresh e).poll _).inspect

theorem launch_apply (accepted : rig.bench.script.submitError = none) (e : Expression) :
    launch e rig = (.ok (rig.device.submissions + 1, rig.device.nextSignal), (launch e rig).2) := by
  have answer := launch_answer e rig
  rw [accepted] at answer
  exact Prod.ext answer rfl

theorem evaluate_of_accepted (accepted : rig.bench.script.submitError = none) (timeout : Duration)
    (e : Expression) :
    evaluate timeout e rig = (do
      let _ ← await timeout .submission (some (rig.device.submissions + 1)) rig.device.nextSignal
      collect timeout) (launch e rig).2 :=
  Action.bind_apply_of_ok (launch_apply accepted e)

theorem await_launch (fresh : rig.device.Fresh) (timeout : Duration) (e : Expression) :
    await timeout .submission (some (rig.device.submissions + 1)) rig.device.nextSignal
        (launch e rig).2 =
      (verdict [waitFailure .submission (rig.bench.script.pollOutcome 0)
        (Fate.pending.after (rig.bench.script.pollOutcome 0))] true, finished timeout e rig) := by
  have answer := await_answer (tracks_launch fresh e) timeout .submission
    (some (rig.device.submissions + 1))
  rw [script_launch] at answer
  exact Prod.ext answer (await_rig timeout .submission _ _ _)

theorem endsAt_submission (fresh : rig.device.Fresh)
    (accepted : rig.bench.script.submitError = none) (unfired : rig.bench.script.pollOutcome 0 ≠ .ok)
    (timeout : Duration) (e : Expression) :
    EndsAt timeout e rig .submission rig.device.nextSignal (finished timeout e rig) := by
  constructor
  · exact Action.bind_apply_of_ok (launch_apply accepted e)
  · obtain ⟨cause, failure⟩ := waitFailure_of_unfired .submission unfired
    have failed := await_launch fresh timeout e
    rw [failure] at failed
    rw [evaluate_of_accepted accepted, Action.bind_apply_of_error failed]
    exact ⟨[], rfl⟩

theorem endsUnanswered_submission (fresh : rig.device.Fresh)
    (accepted : rig.bench.script.submitError = none) (unfired : rig.bench.script.pollOutcome 0 ≠ .ok)
    (timeout : Duration) (e : Expression) : EndsUnanswered timeout e rig .submission := by
  refine ⟨.submission, _, _, rfl, endsAt_submission fresh accepted unfired timeout e, ?_⟩
  intro granted
  rw [inspect_finished fresh]
  exact seen_ne_arrived unfired true granted

section Done

variable (fresh : rig.device.Fresh) (accepted : rig.bench.script.submitError = none)
  (done : rig.bench.script.pollOutcome 0 = .ok) (timeout : Duration) (e : Expression)

include fresh done in
theorem await_done :
    await timeout .submission (some (rig.device.submissions + 1)) rig.device.nextSignal
        (launch e rig).2 = (.ok true, finished timeout e rig) := by
  rw [await_launch fresh, done]
  rfl

include fresh accepted done

theorem evaluate_of_done : evaluate timeout e rig = collect timeout (finished timeout e rig) := by
  rw [evaluate_of_accepted accepted]
  exact Action.bind_apply_of_ok (await_done fresh done timeout e)

theorem evaluateUpTo_of_done (buffer : Staging) :
    evaluateUpTo timeout e (.mapping buffer) rig =
      collectUpTo timeout buffer (finished timeout e rig) := by
  refine (Action.bind_apply_of_ok (launch_apply accepted e)).trans ?_
  exact Action.bind_apply_of_ok (await_done fresh done timeout e)

theorem endsAt_result (unfired : rig.bench.script.pollOutcome 1 ≠ .ok) :
    EndsAt timeout e rig (.mapping .result) (finished timeout e rig).device.nextSignal
      (Action.poll none timeout (requested (finished timeout e rig))).2 := by
  rw [← pollOutcome_finished timeout e] at unfired
  constructor
  · rw [evaluateUpTo_of_done fresh accepted done]
    exact collectUpTo_result timeout _
  · rw [evaluate_of_done fresh accepted done]
    exact ⟨_, collect_of_unfired (fresh_finished fresh timeout e) unfired timeout⟩

theorem endsUnanswered_result (unfired : rig.bench.script.pollOutcome 1 ≠ .ok) :
    EndsUnanswered timeout e rig (.mapping Staging.result.name) := by
  refine ⟨_, _, _, rfl, endsAt_result fresh accepted done timeout e unfired, ?_⟩
  intro granted
  rw [inspect_polled (fresh_finished fresh timeout e), pollOutcome_finished]
  exact seen_ne_arrived unfired _ granted

/-- The second poll of a readback, if it comes to that, stands with the signal of the diagnostics
already there. -/
theorem evaluateUpTo_diagnostics (fired : rig.bench.script.pollOutcome 1 = .ok)
    (granted : rig.bench.script.grants 0 = true) :
    ∃ signal after, evaluateUpTo timeout e (.mapping .diagnostics) rig = (.ok signal, after) ∧
      after.device.inspect signal = .arrived (rig.bench.script.grants 1) := by
  rw [← pollOutcome_finished timeout e] at fired
  rw [← grants_finished timeout e] at granted ⊢
  have fresh' := fresh_finished fresh timeout e
  refine ⟨_, _, ?_, inspect_polledTwice fresh' fired timeout⟩
  rw [evaluateUpTo_of_done fresh accepted done]
  exact collectUpTo_diagnostics fresh' fired granted timeout

end Done

end Session

end DualEval
