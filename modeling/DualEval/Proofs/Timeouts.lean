import DualEval.Proofs.EvaluationEnds
import DualEval.Proofs.StationCalls

/-!
# Timeouts and signals

A timeout is meant to tell that a signal has not arrived.  A wait reports one when its poll succeeds
and the signal is still awaited, and also when its poll runs out of time, in which case the signal
is not looked at.  The poll before may already have brought the signal of the diagnostics, so the
second kind can be wrong; it is wrong for no other wait.
-/

namespace DualEval

open Device

/-- Under the script the wait for the diagnostics runs out of time after the wait for the result has
brought their signal. -/
structure Device.Script.CutsShort (script : Script) : Prop where
  accepted : script.submitError = none
  done : script.pollOutcome 0 = .ok
  fired : script.pollOutcome 1 = .ok
  granted : script.grants 0 = true
  cut : script.pollOutcome 2 = .timeout

namespace Device

variable {script : Script} {timeout : Duration} {first second : PollOutcome} {calls : List Call}
  {failure : Option Breakdown} {stage : Stage}

theorem PollOutcome.eq_timeout_of_breakOff {outcome : PollOutcome}
    (broken : outcome.breakOff = some .timedOut) : outcome = .timeout := by
  cases outcome with
  | timeout => rfl
  | _ => cases broken

theorem lengthFailure_ne_wait (script : Script) (owner : Staging) (stage : Stage)
    (cause : WaitFailure) : script.lengthFailure owner ≠ some (.wait stage cause) := by
  rw [Script.lengthFailure]
  split <;> simp

/-- A readback times out in its first wait, whose poll fires nothing, or in its second, whose poll
runs out of time. -/
theorem Readback.timedOut (course : Readback script timeout first second calls failure)
    (met : failure = some (.wait stage .timedOut)) :
    stage = .mapping Staging.result.name ∧ first ≠ .ok ∨
      stage = .mapping Staging.diagnostics.name ∧ first = .ok ∧ script.grants 0 = true ∧
        second = .timeout := by
  cases course with
  | unfired unfired =>
    cases met
    exact .inl ⟨rfl, unfired⟩
  | resultRefused _ _ => cases met
  | brokenOff fired granted broken =>
    cases met
    exact .inr ⟨rfl, fired, granted, PollOutcome.eq_timeout_of_breakOff broken⟩
  | diagnosticsRefused _ _ _ _ => cases met
  | resultUnread _ _ _ _ unread => exact absurd (unread.trans met) (lengthFailure_ne_wait _ _ _ _)
  | read _ _ _ _ _ => exact absurd met (lengthFailure_ne_wait _ _ _ _)

end Device

namespace Session

/-- Unless the script cuts the wait for the diagnostics short, an evaluation times out only where a
signal has not arrived. -/
theorem endsUnanswered_of_timedOut {rig : Rig} (fresh : rig.device.Fresh)
    (whole : ¬ rig.bench.script.CutsShort) {timeout : Duration} {e : Expression} {stage : Stage}
    (timedOut : (evaluate timeout e rig).1 = .error (.wait stage .timedOut)) :
    EndsUnanswered timeout e rig stage := by
  have course := dispatching_dispatchSteps rig.bench.script timeout e (rig.device.submissions + 1)
  rw [(evaluate_takes fresh timeout e).answer, verdict_eq_error_iff] at timedOut
  generalize Step.performed _ = calls at course
  generalize met : List.findSome? id _ = failure at course timedOut
  cases course with
  | rejected _ => cases timedOut
  | unfinished accepted unfired =>
    cases timedOut
    exact endsUnanswered_submission fresh accepted unfired timeout e
  | readBack accepted done course =>
    rcases course.timedOut timedOut with ⟨rfl, unfired⟩ | ⟨_, fired, granted, cut⟩
    · exact endsUnanswered_result fresh accepted done timeout e unfired
    · exact absurd ⟨accepted, done, fired, granted, cut⟩ whole

/-- If the script cuts the wait for the diagnostics short, an evaluation times out there. -/
theorem timedOut_of_cutsShort {rig : Rig} (fresh : rig.device.Fresh)
    (cuts : rig.bench.script.CutsShort) (timeout : Duration) (e : Expression) :
    (evaluate timeout e rig).1 = .error (.wait (.mapping Staging.diagnostics.name) .timedOut) := by
  have checks : rig.bench.script.checks.findSome? id =
      some (.wait (.mapping Staging.diagnostics.name) .timedOut) := by
    simp [Script.checks, cuts.accepted, cuts.done, cuts.fired, cuts.cut, Script.readbackChecks,
      cuts.granted, Fate.after, refusal, waitFailure]
  rw [evaluate_answer fresh, verdict_of_some checks]

/-- Then the signal of that wait has arrived before its poll. -/
theorem not_endsUnanswered_of_cutsShort {rig : Rig} (fresh : rig.device.Fresh)
    (cuts : rig.bench.script.CutsShort) (timeout : Duration) (e : Expression) :
    ¬ EndsUnanswered timeout e rig (.mapping Staging.diagnostics.name) := by
  intro ⟨wait, signal, after, named, ends, unanswered⟩
  obtain ⟨signal', after', reached, arrived⟩ := evaluateUpTo_diagnostics fresh cuts.accepted cuts.done
    timeout e cuts.fired cuts.granted
  obtain rfl : wait = .mapping .diagnostics := Wait.stage_injective named
  rw [ends.reached] at reached
  cases reached
  exact unanswered _ arrived

end Session

namespace Station

/-- If a dispatch answers with a timeout, it ends at the wait of the stage that it names, and when
that wait has polled, its signal has not arrived. -/
def TimesOutTruly (station : Station) (settings : AcceleratorSettings) (e : Expression) : Prop :=
  ∀ session stage bound, station.session = some session →
    (station.dispatch settings e).answer = .error (.readbackTimeout stage bound) →
    Session.EndsUnanswered settings.readbackTimeout e
      { bench := station.bench, device := session.device } stage

theorem toError_eq_readbackTimeout {breakdown : Breakdown} {timeout bound : Duration}
    {stage : Stage} (same : breakdown.toError timeout = .readbackTimeout stage bound) :
    breakdown = .wait stage .timedOut := by
  cases breakdown with
  | wait other cause =>
    cases cause with
    | timedOut =>
      cases same
      rfl
    | wrongIndex asked last => cases same
    | lost => cases same
  | rejected error => cases same
  | mapRefused buffer => cases same
  | wrongLength buffer expected actual => cases same

theorem answer_eq_readbackTimeout {station : Station} {session : Session}
    {settings : AcceleratorSettings} {e : Expression} {stage : Stage} {bound : Duration}
    (present : station.session = some session)
    (timedOut : (station.dispatch settings e).answer = .error (.readbackTimeout stage bound)) :
    (Session.evaluate settings.readbackTimeout e
      { bench := station.bench, device := session.device }).1 =
        .error (.wait stage .timedOut) := by
  rw [answer_of_session present] at timedOut
  cases ending : (Session.evaluate settings.readbackTimeout e
      { bench := station.bench, device := session.device }).1 with
  | ok output =>
    rw [ending] at timedOut
    cases timedOut
  | error breakdown =>
    rw [ending] at timedOut
    rw [toError_eq_readbackTimeout (Except.error.inj timedOut)]

variable {station : Station}

theorem timesOutTruly_of_whole (rests : station.Rests)
    (whole : station.session ≠ none → ¬ station.bench.script.CutsShort)
    (settings : AcceleratorSettings) (e : Expression) : station.TimesOutTruly settings e := by
  intro session stage bound present timedOut
  have ending := answer_eq_readbackTimeout present timedOut
  rw [present] at whole
  exact Session.endsUnanswered_of_timedOut (rests session present).fresh
    (whole (Option.some_ne_none session)) ending

theorem not_timesOutTruly_of_cutsShort (rests : station.Rests) (present : station.session ≠ none)
    (cuts : station.bench.script.CutsShort) (settings : AcceleratorSettings) (e : Expression) :
    ¬ station.TimesOutTruly settings e := by
  intro truly
  obtain ⟨session, present⟩ := Option.ne_none_iff_exists'.mp present
  let rig : Rig := { bench := station.bench, device := session.device }
  have fresh : rig.device.Fresh := (rests session present).fresh
  have ending := Session.timedOut_of_cutsShort fresh cuts settings.readbackTimeout e
  apply Session.not_endsUnanswered_of_cutsShort fresh cuts settings.readbackTimeout e
  apply truly session _ settings.readbackTimeout present
  rw [answer_of_session present]
  exact congrArg (Except.mapError (·.toError settings.readbackTimeout)) ending

/-- **When a timeout tells the truth.**  After any run of requests and with any script newly put in
force, a dispatch answers with a timeout only for a signal that has not arrived when its wait has
polled, except in a session under a script that cuts the wait for the diagnostics short. -/
theorem timesOutTruly_iff (requests : List Request) (script : Script)
    (settings : AcceleratorSettings) (e : Expression) :
    ((after requests).withScript script).TimesOutTruly settings e ↔
      ((after requests).session ≠ none → ¬ script.CutsShort) := by
  have rests : ((after requests).withScript script).Rests := rests_after requests
  constructor
  · intro truly present cuts
    exact not_timesOutTruly_of_cutsShort rests present cuts settings e truly
  · intro whole
    exact timesOutTruly_of_whole rests whole settings e

/-- The second poll brings both mappings, the third runs out of time, and the dispatch answers that
the diagnostics could not be had in time. -/
theorem times_out_with_signal :
    ¬ (after [.setScript { polls := [.ok, .ok, .timeout] }, .bringUp {} false]).TimesOutTruly {} {
      operator := .subtract
      left := .ofBits 0x41100000
      right := .ofBits 0x40000000 } := by
  have cuts : Script.CutsShort { polls := [.ok, .ok, .timeout] } := ⟨rfl, rfl, rfl, rfl, rfl⟩
  have rests := rests_after [.setScript { polls := [.ok, .ok, .timeout] }, .bringUp {} false]
  exact not_timesOutTruly_of_cutsShort rests (Option.some_ne_none _) cuts _ _

end Station

end DualEval
