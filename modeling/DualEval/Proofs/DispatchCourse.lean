import DualEval.Proofs.EvaluationSteps

/-!
# The ways a dispatch can go

A dispatch can go eight ways: its submission is rejected, one of the three waits ends without its
signal, one of the two mappings is refused, or the ranges are read, the second of them only if the
first has its length.  Each way is listed with the calls made and the breakdown met
(`DualEval.Device.Dispatching`), so that a rule about a dispatch is checked once for each of them.
-/

namespace DualEval

open Device

namespace Device

/-- Why a wait ends whose poll breaks off before the signal is looked at. -/
def PollOutcome.breakOff : PollOutcome → Option WaitFailure
  | .timeout => some .timedOut
  | .wrongIndex asked last => some (.wrongIndex asked last)
  | .ok | .silent | .drop => none

/-- The ways a readback can go: the calls made once its mappings are requested, and the breakdown
met, if any. -/
inductive Readback (script : Script) (timeout : Duration) (first second : PollOutcome) :
    List Call → Option Breakdown → Prop where
  | unfired {cause : WaitFailure} (unfired : first ≠ .ok) :
      Readback script timeout first second
        [.poll none timeout first, .unmap .diagnostics, .unmap .result]
        (some (.wait (.mapping Staging.result.name) cause))
  | resultRefused (fired : first = .ok) (refused : script.grants 0 = false) :
      Readback script timeout first second
        [.poll none timeout .ok, .unmap .diagnostics] (some (.mapRefused .result))
  | brokenOff {cause : WaitFailure} (fired : first = .ok) (granted : script.grants 0 = true)
      (broken : second.breakOff = some cause) :
      Readback script timeout first second
        [.poll none timeout .ok, .poll none timeout second, .unmap .diagnostics, .unmap .result]
        (some (.wait (.mapping Staging.diagnostics.name) cause))
  | diagnosticsRefused (fired : first = .ok) (granted : script.grants 0 = true)
      (heard : second.breakOff = none) (refused : script.grants 1 = false) :
      Readback script timeout first second
        [.poll none timeout .ok, .poll none timeout second, .unmap .result]
        (some (.mapRefused .diagnostics))
  | resultUnread {breakdown : Breakdown} (fired : first = .ok) (granted : script.grants 0 = true)
      (heard : second.breakOff = none) (granted' : script.grants 1 = true)
      (unread : script.lengthFailure .result = some breakdown) :
      Readback script timeout first second
        [.poll none timeout .ok, .poll none timeout second,
          .getMappedRange .result (script.rangeLength .result), .unmap .diagnostics, .unmap .result]
        (some breakdown)
  | read (fired : first = .ok) (granted : script.grants 0 = true) (heard : second.breakOff = none)
      (granted' : script.grants 1 = true) (readResult : script.lengthFailure .result = none) :
      Readback script timeout first second
        [.poll none timeout .ok, .poll none timeout second,
          .getMappedRange .result (script.rangeLength .result),
          .getMappedRange .diagnostics (script.rangeLength .diagnostics),
          .unmap .diagnostics, .unmap .result]
        (script.lengthFailure .diagnostics)

/-- The ways a dispatch can go: the calls made, and the breakdown met, if any. -/
inductive Dispatching (script : Script) (timeout : Duration) (e : Expression) (submission : Nat) :
    List Call → Option Breakdown → Prop where
  | rejected {error : String} (rejected : script.submitError = some error) :
      Dispatching script timeout e submission (Session.launchCalls e (some error))
        (some (.rejected error))
  | unfinished {cause : WaitFailure} (accepted : script.submitError = none)
      (unfired : script.pollOutcome 0 ≠ .ok) :
      Dispatching script timeout e submission
        (Session.launchCalls e none ++ [.poll (some submission) timeout (script.pollOutcome 0)])
        (some (.wait .submission cause))
  | readBack {calls : List Call} {failure : Option Breakdown}
      (accepted : script.submitError = none) (fired : script.pollOutcome 0 = .ok)
      (course : Readback script timeout (script.pollOutcome 1) (script.pollOutcome 2) calls failure) :
      Dispatching script timeout e submission
        (Session.launchCalls e none ++ .poll (some submission) timeout .ok ::
          .mapAsync .result (script.grants 0) :: .mapAsync .diagnostics (script.grants 1) :: calls)
        failure

end Device

theorem waitFailure_of_unfired (stage : Stage) {outcome : PollOutcome} (unfired : outcome ≠ .ok) :
    ∃ cause, waitFailure stage outcome (Fate.pending.after outcome) = some (.wait stage cause) := by
  cases outcome with
  | ok => exact absurd rfl unfired
  | silent => exact ⟨_, rfl⟩
  | drop => exact ⟨_, rfl⟩
  | timeout => exact ⟨_, rfl⟩
  | wrongIndex asked last => exact ⟨_, rfl⟩

/-- The wait for a signal that has arrived fails only with its poll. -/
theorem waitFailure_of_fired (stage : Stage) (outcome : PollOutcome) :
    waitFailure stage outcome .fired = outcome.breakOff.map (.wait stage) := by
  cases outcome <;> rfl

theorem readSteps_of_fired (script : Script) (timeout : Duration) (second : PollOutcome) :
    script.readSteps timeout .ok second = [
      { calls := [.poll none timeout .ok], failure := none },
      { calls := [], failure := refusal .result (script.grants 0) },
      { calls := [.poll none timeout second]
        failure := second.breakOff.map (.wait (.mapping Staging.diagnostics.name)) },
      { calls := [], failure := refusal .diagnostics (script.grants 1) },
      script.readStep .result,
      script.readStep .diagnostics] := by
  rw [← waitFailure_of_fired]
  rfl

theorem readbackChecks_of_fired (script : Script) (second : PollOutcome) :
    script.readbackChecks .ok second = [
      none,
      refusal .result (script.grants 0),
      second.breakOff.map (.wait (.mapping Staging.diagnostics.name)),
      refusal .diagnostics (script.grants 1),
      script.lengthFailure .result,
      script.lengthFailure .diagnostics] := by
  rw [← waitFailure_of_fired]
  rfl

variable {script : Script} {timeout : Duration} {first second : PollOutcome}

theorem release_of_ne {failure : Option Breakdown} {buffer : Staging}
    (met : failure ≠ some (.mapRefused buffer)) : release failure buffer = [.unmap buffer] :=
  if_neg met

theorem lengthFailure_ne (script : Script) (owner buffer : Staging) :
    script.lengthFailure owner ≠ some (.mapRefused buffer) := by
  rw [Script.lengthFailure]
  split <;> simp

theorem readback_of_unfired (timeout : Duration) (unfired : first ≠ .ok) :
    Readback script timeout first second (script.readCalls timeout first second)
      ((script.readbackChecks first second).findSome? id) := by
  obtain ⟨cause, failed⟩ := waitFailure_of_unfired (.mapping Staging.result.name) unfired
  have met : (script.readbackChecks first second).findSome? id =
      some (.wait (.mapping Staging.result.name) cause) := by
    simp [Script.readbackChecks, failed]
  have calls : script.readCalls timeout first second =
      [.poll none timeout first, .unmap .diagnostics, .unmap .result] := by
    simp [Script.readCalls, met, Script.readSteps, resolveSteps, waitStep, failed, Step.performed,
      release]
  rw [met, calls]
  exact .unfired unfired

/-- With both mappings granted and heard of, only the lengths of the ranges remain. -/
theorem readback_of_mapped (timeout : Duration) (granted : script.grants 0 = true)
    (heard : second.breakOff = none) (granted' : script.grants 1 = true) :
    Readback script timeout .ok second (script.readCalls timeout .ok second)
      ((script.readbackChecks .ok second).findSome? id) := by
  -- neither length failure names a refused mapping, so both buffers are released
  have released (failure : Option Breakdown)
      (met : (script.readbackChecks .ok second).findSome? id = failure)
      (other : ∀ buffer, failure ≠ some (.mapRefused buffer)) :
      script.readCalls timeout .ok second =
        Step.performed (script.readSteps timeout .ok second) ++
          [.unmap .diagnostics, .unmap .result] := by
    rw [Script.readCalls, met, release_of_ne (other _), release_of_ne (other _)]
    rfl
  cases unread : script.lengthFailure .result with
  | some breakdown =>
    have met : (script.readbackChecks .ok second).findSome? id = some breakdown := by
      simp [readbackChecks_of_fired, refusal, granted, heard, granted', unread]
    have performed : Step.performed (script.readSteps timeout .ok second) =
        [.poll none timeout .ok, .poll none timeout second,
          .getMappedRange .result (script.rangeLength .result)] := by
      simp [readSteps_of_fired, refusal, granted, heard, granted', Script.readStep, unread,
        Step.performed]
    have calls := released _ met fun buffer => unread ▸ lengthFailure_ne script .result buffer
    rw [met, calls, performed]
    exact .resultUnread rfl granted heard granted' unread
  | none =>
    have met : (script.readbackChecks .ok second).findSome? id =
        script.lengthFailure .diagnostics := by
      simp [readbackChecks_of_fired, refusal, granted, heard, granted', unread]
    have performed : Step.performed (script.readSteps timeout .ok second) =
        [.poll none timeout .ok, .poll none timeout second,
          .getMappedRange .result (script.rangeLength .result),
          .getMappedRange .diagnostics (script.rangeLength .diagnostics)] := by
      simp [readSteps_of_fired, refusal, granted, heard, granted', Script.readStep, unread,
        Step.performed]
    have calls := released _ met (lengthFailure_ne script .diagnostics)
    rw [met, calls, performed]
    exact .read rfl granted heard granted' unread

/-- Every readback goes one of these ways. -/
theorem readback_readCalls (script : Script) (timeout : Duration) (first second : PollOutcome) :
    Readback script timeout first second (script.readCalls timeout first second)
      ((script.readbackChecks first second).findSome? id) := by
  by_cases fired : first = .ok
  · subst fired
    cases granted : script.grants 0 with
    | false =>
      have met : (script.readbackChecks .ok second).findSome? id = some (.mapRefused .result) := by
        simp [readbackChecks_of_fired, refusal, granted]
      have calls : script.readCalls timeout .ok second =
          [.poll none timeout .ok, .unmap .diagnostics] := by
        simp [Script.readCalls, met, release, readSteps_of_fired, refusal, granted, Step.performed]
      rw [met, calls]
      exact .resultRefused rfl granted
    | true =>
      cases broken : second.breakOff with
      | some cause =>
        have met : (script.readbackChecks .ok second).findSome? id =
            some (.wait (.mapping Staging.diagnostics.name) cause) := by
          simp [readbackChecks_of_fired, refusal, granted, broken]
        have calls : script.readCalls timeout .ok second =
            [.poll none timeout .ok, .poll none timeout second, .unmap .diagnostics,
              .unmap .result] := by
          simp [Script.readCalls, met, release, readSteps_of_fired, refusal, granted, broken,
            Step.performed]
        rw [met, calls]
        exact .brokenOff rfl granted broken
      | none =>
        cases granted' : script.grants 1 with
        | false =>
          have met : (script.readbackChecks .ok second).findSome? id =
              some (.mapRefused .diagnostics) := by
            simp [readbackChecks_of_fired, refusal, granted, broken, granted']
          have calls : script.readCalls timeout .ok second =
              [.poll none timeout .ok, .poll none timeout second, .unmap .result] := by
            simp [Script.readCalls, met, release, readSteps_of_fired, refusal, granted, broken,
              granted', Step.performed]
          rw [met, calls]
          exact .diagnosticsRefused rfl granted broken granted'
        | true => exact readback_of_mapped timeout granted broken granted'
  · exact readback_of_unfired timeout fired

/-- Every dispatch goes one of these ways. -/
theorem dispatching_dispatchSteps (script : Script) (timeout : Duration) (e : Expression)
    (submission : Nat) :
    Dispatching script timeout e submission
      (Step.performed (script.dispatchSteps timeout e submission))
      ((Step.checks (script.dispatchSteps timeout e submission)).findSome? id) := by
  have course := readback_readCalls script timeout (script.pollOutcome 1) (script.pollOutcome 2)
  cases accepted : script.submitError with
  | some error =>
    have met : (Step.checks (script.dispatchSteps timeout e submission)).findSome? id =
        some (.rejected error) := by
      simp [Script.dispatchSteps, Step.checks, accepted]
    have calls : Step.performed (script.dispatchSteps timeout e submission) =
        Session.launchCalls e (some error) := by
      simp [Script.dispatchSteps, Step.performed, accepted]
    rw [met, calls]
    exact .rejected accepted
  | none =>
    by_cases fired : script.pollOutcome 0 = .ok
    · have met : (Step.checks (script.dispatchSteps timeout e submission)).findSome? id =
          (script.readbackChecks (script.pollOutcome 1) (script.pollOutcome 2)).findSome? id := by
        simp [Script.dispatchSteps, Step.checks, accepted, waitStep, fired, Fate.after,
          waitFailure_of_fired, PollOutcome.breakOff, Script.readbackStep]
      have calls : Step.performed (script.dispatchSteps timeout e submission) =
          Session.launchCalls e none ++ .poll (some submission) timeout .ok ::
            .mapAsync .result (script.grants 0) :: .mapAsync .diagnostics (script.grants 1) ::
              script.readCalls timeout (script.pollOutcome 1) (script.pollOutcome 2) := by
        simp [Script.dispatchSteps, Step.performed, accepted, waitStep, fired, Fate.after,
          waitFailure_of_fired, PollOutcome.breakOff, Script.readbackStep]
      rw [met, calls]
      exact .readBack accepted fired course
    · obtain ⟨cause, failed⟩ := waitFailure_of_unfired .submission fired
      have met : (Step.checks (script.dispatchSteps timeout e submission)).findSome? id =
          some (.wait .submission cause) := by
        simp [Script.dispatchSteps, Step.checks, accepted, waitStep, failed]
      have calls : Step.performed (script.dispatchSteps timeout e submission) =
          Session.launchCalls e none ++
            [.poll (some submission) timeout (script.pollOutcome 0)] := by
        simp [Script.dispatchSteps, Step.performed, accepted, waitStep, failed]
      rw [met, calls]
      exact .unfinished accepted fired

/-! ### The staging buffers -/

namespace Device

/-- What the staging buffers are doing once both mappings are requested. -/
def Script.requested (script : Script) : Staging → Mapping
  | .result => .pending (script.grants 0)
  | .diagnostics => .pending (script.grants 1)

/-- A readback ends the mappings that were requested, unless they have ended with a refusal. -/
theorem Readback.replay {calls : List Call} {failure : Option Breakdown}
    (course : Readback script timeout first second calls failure) :
    Call.replay script.requested calls = idle := by
  funext buffer
  cases course with
  | unfired _ => cases buffer <;> rfl
  | resultRefused _ refused =>
    cases buffer with
    | result =>
      change (Mapping.pending (script.grants 0)).settle = .idle
      rw [refused]
      rfl
    | diagnostics => rfl
  | brokenOff _ _ _ => cases buffer <;> rfl
  | diagnosticsRefused _ _ _ refused =>
    cases buffer with
    | result => rfl
    | diagnostics =>
      change (Mapping.pending (script.grants 1)).settle.after second = .idle
      rw [refused]
      cases second <;> rfl
  | resultUnread _ _ _ _ _ => cases buffer <;> rfl
  | read _ _ _ _ _ => cases buffer <;> rfl

theorem replay_launchCalls (doing : Staging → Mapping) (e : Expression) (caught : Option String) :
    Call.replay doing (Session.launchCalls e caught) = doing := by
  apply Call.replay_of_still
  simp [Session.launchCalls, Session.encodingCalls, Call.Still, Call.effect]

/-- The requests of a dispatch are made on idle buffers. -/
theorem act_requests (script : Script) (timeout : Duration) (submission : Nat) :
    Call.replay idle [.poll (some submission) timeout .ok, .mapAsync .result (script.grants 0),
      .mapAsync .diagnostics (script.grants 1)] = script.requested := by
  funext buffer
  cases buffer <;> rfl

/-- Both buffers are idle again after a dispatch. -/
theorem Dispatching.replay {e : Expression} {submission : Nat} {calls : List Call}
    {failure : Option Breakdown}
    (course : Dispatching script timeout e submission calls failure) :
    Call.replay idle calls = idle := by
  cases course with
  | rejected _ => exact replay_launchCalls idle e _
  | unfinished _ _ =>
    rw [Call.replay_append, replay_launchCalls]
    funext buffer
    cases script.pollOutcome 0 <;> rfl
  | @readBack calls _ _ _ course =>
    have requests := Call.replay_append idle [.poll (some submission) timeout .ok,
      .mapAsync .result (script.grants 0), .mapAsync .diagnostics (script.grants 1)] calls
    rw [act_requests, course.replay] at requests
    rw [Call.replay_append, replay_launchCalls]
    exact requests

end Device

end DualEval
