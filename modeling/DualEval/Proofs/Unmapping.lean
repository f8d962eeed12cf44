import DualEval.Proofs.StationCalls

/-!
# Unmapping idle buffers

A release leaves its buffer alone if its own wait has seen the mapping refused, since a refused
mapping has ended.  But the poll of one wait reports both mappings.  If it reports that the mapping
of the diagnostics is refused and the wait for the diagnostics is not reached, or breaks off, nobody
has seen the refusal, and a buffer is unmapped that is idle.  This is the only way in which it
happens.
-/

namespace DualEval

open Device

namespace Device

/-- A buffer is unmapped only while it is mapped or its mapping is requested. -/
def Call.EndsMapping (doing : Staging → Mapping) : Call → Prop
  | unmap buffer => doing buffer ≠ .idle
  | _ => True

/-- Under the script the wait for the result is told that the mapping of the diagnostics is refused,
and the wait for the diagnostics does not come to see it. -/
structure Script.HidesRefusal (script : Script) : Prop where
  accepted : script.submitError = none
  done : script.pollOutcome 0 = .ok
  fired : script.pollOutcome 1 = .ok
  refused : script.grants 1 = false
  unseen : script.grants 0 = true → (script.pollOutcome 2).breakOff ≠ none

variable {script : Script} {timeout : Duration} {first second : PollOutcome} {e : Expression}
  {submission : Nat} {calls : List Call} {failure : Option Breakdown}

theorem pending_after_ne_idle {outcome : PollOutcome} (unfired : outcome ≠ .ok) (granted : Bool) :
    (Mapping.pending granted).after outcome ≠ .idle := by
  cases outcome with
  | ok => exact absurd rfl unfired
  | _ => exact Mapping.noConfusion

theorem pending_settle_ne_idle_iff (granted : Bool) :
    (Mapping.pending granted).settle ≠ .idle ↔ granted = true := by
  cases granted <;> simp [Mapping.settle]

theorem mapped_after_ne_idle (reported : Bool) (outcome : PollOutcome) :
    (Mapping.mapped reported).after outcome ≠ .idle := by
  cases outcome <;> exact Mapping.noConfusion

/-- A poll that breaks off changes no mapping. -/
theorem after_of_breakOff {outcome : PollOutcome} {cause : WaitFailure}
    (broken : outcome.breakOff = some cause) (m : Mapping) : m.after outcome = m := by
  cases outcome <;> first | rfl | cases broken

/-- A readback unmaps an idle buffer only if the refusal of the diagnostics stays unseen. -/
theorem Readback.endsMapping_iff (course : Readback script timeout first second calls failure) :
    Call.Obey Call.EndsMapping script.requested calls ↔
      ¬ (first = .ok ∧ script.grants 1 = false ∧
        (script.grants 0 = true → second.breakOff ≠ none)) := by
  -- a mapping that the first poll reports as granted stays through the second
  have stays (buffer : Staging) {granted : Bool}
      (requested : script.requested buffer = .pending granted) (grants : granted = true) :
      (script.requested buffer).settle.after second ≠ .idle := by
    rw [requested, grants]
    exact mapped_after_ne_idle true second
  cases course with
  | unfired unfired =>
    have diagnostics := pending_after_ne_idle unfired (script.grants 1)
    have result := pending_after_ne_idle unfired (script.grants 0)
    exact iff_of_true ⟨trivial, diagnostics, result, trivial⟩ fun hidden => unfired hidden.1
  | resultRefused fired refused =>
    change True ∧ (Mapping.pending (script.grants 1)).settle ≠ .idle ∧ True ↔ _
    rw [pending_settle_ne_idle_iff]
    simp [fired, refused]
  | brokenOff fired granted broken =>
    have result := stays .result rfl granted
    change True ∧ True ∧ (Mapping.pending (script.grants 1)).settle.after second ≠ .idle ∧
      (script.requested .result).settle.after second ≠ .idle ∧ True ↔ _
    rw [after_of_breakOff broken, pending_settle_ne_idle_iff]
    simp [fired, broken, result]
  | diagnosticsRefused _ granted heard _ =>
    have result := stays .result rfl granted
    exact iff_of_true ⟨trivial, trivial, result, trivial⟩ fun hidden => hidden.2.2 granted heard
  | resultUnread _ granted _ granted' _ =>
    have result := stays .result rfl granted
    have diagnostics := stays .diagnostics rfl granted'
    refine iff_of_true ⟨trivial, trivial, trivial, diagnostics, result, trivial⟩ fun hidden => ?_
    rw [granted'] at hidden
    exact Bool.noConfusion hidden.2.1
  | read _ granted _ granted' _ =>
    have result := stays .result rfl granted
    have diagnostics := stays .diagnostics rfl granted'
    refine iff_of_true ⟨trivial, trivial, trivial, trivial, diagnostics, result, trivial⟩
      fun hidden => ?_
    rw [granted'] at hidden
    exact Bool.noConfusion hidden.2.1

theorem launchCalls_endsMapping (e : Expression) (caught : Option String) :
    Call.Obey Call.EndsMapping idle (Session.launchCalls e caught) := by
  simp [Session.launchCalls, Session.encodingCalls, Call.Obey, Call.EndsMapping]

/-- A dispatch unmaps an idle buffer exactly under the scripts that hide a refusal. -/
theorem Dispatching.endsMapping_iff
    (course : Dispatching script timeout e submission calls failure) :
    Call.Obey Call.EndsMapping idle calls ↔ ¬ script.HidesRefusal := by
  cases course with
  | rejected rejected =>
    refine iff_of_true (launchCalls_endsMapping e _) fun hides => ?_
    rw [hides.accepted] at rejected
    cases rejected
  | unfinished _ unfired =>
    rw [Call.obey_append]
    exact iff_of_true ⟨launchCalls_endsMapping e _, trivial, trivial⟩ fun hides => unfired hides.done
  | @readBack calls _ accepted done course =>
    have requested : Call.Obey Call.EndsMapping idle
          (.poll (some submission) timeout .ok :: .mapAsync .result (script.grants 0) ::
            .mapAsync .diagnostics (script.grants 1) :: calls) ↔
        Call.Obey Call.EndsMapping script.requested calls := by
      rw [← act_requests script timeout submission]
      exact ⟨fun obeyed => obeyed.2.2.2, fun obeyed => ⟨trivial, trivial, trivial, obeyed⟩⟩
    rw [Call.obey_append, replay_launchCalls, requested, course.endsMapping_iff,
      and_iff_right (launchCalls_endsMapping e none), not_iff_not]
    constructor
    · intro ⟨fired, refused, unseen⟩
      exact ⟨accepted, done, fired, refused, unseen⟩
    · intro hides
      exact ⟨hides.fired, hides.refused, hides.unseen⟩

end Device

namespace Session

theorem BringingUp.endsMapping {script : Script} {settings : AcceleratorSettings} {observed : Bool}
    {calls : List Call} {error : Option AcceleratorError}
    (course : BringingUp script settings observed calls error) :
    Call.Obey Call.EndsMapping idle calls := by
  cases course with
  | noAdapter _ => exact ⟨trivial, trivial⟩
  | noDevice _ _ => exact ⟨trivial, trivial, trivial⟩
  | kernelRefused _ _ => simp [adapterCall, pipelineCalls, Call.Obey, Call.EndsMapping]
  | broughtUp _ _ =>
    simp [adapterCall, pipelineCalls, bufferCalls, Buffer.all, Call.Obey, Call.EndsMapping]

end Session

namespace Station

/-- Of all requests only a dispatch in a session can unmap an idle buffer. -/
theorem calls_endsMapping_iff (station : Station) (request : Request) :
    Call.Obey Call.EndsMapping idle (station.calls request) ↔
      ∀ settings e, request = .dispatch settings e → station.session ≠ none →
        ¬ station.bench.script.HidesRefusal := by
  cases request with
  | setScript script => exact iff_of_true trivial (by simp)
  | bringUp settings observed =>
    refine iff_of_true ?_ (by simp)
    rw [calls]
    split
    · trivial
    · have course := Session.bringingUp_bringUpCalls station.bench.script settings observed
      exact course.endsMapping
  | dispatch settings e =>
    rw [calls]
    cases present : station.session with
    | none => exact iff_of_true trivial (by simp)
    | some session =>
      have course := dispatching_dispatchSteps station.bench.script settings.readbackTimeout e
        (session.device.submissions + 1)
      rw [course.endsMapping_iff]
      simp
  | shutDown =>
    refine iff_of_true ?_ (by simp)
    rw [calls]
    split
    · exact ⟨trivial, trivial⟩
    · trivial

/-- **An idle buffer is unmapped exactly by the dispatches that hide a refusal.** In a run of
requests, whatever the scripts, each buffer that is unmapped was mapped or about to be, if and only
if no dispatch was made in a session while the script in force hides a refusal. -/
theorem record_endsMapping_iff (requests : List Request) :
    (∀ entry ∈ (after requests).bench.log, entry.call.EndsMapping entry.mapping) ↔
      ∀ before settings e, before ++ [.dispatch settings e] <+: requests →
        (after before).session ≠ none → ¬ (after before).bench.script.HidesRefusal := by
  rw [forall_log_iff]
  constructor
  · intro obeyed before settings e begins
    have recorded := obeyed before _ begins
    rw [← Call.obey_iff_entries, calls_endsMapping_iff] at recorded
    exact recorded settings e rfl
  · intro seen before request begins
    rw [← Call.obey_iff_entries, calls_endsMapping_iff]
    intro settings e dispatched
    subst dispatched
    exact seen before settings e begins

/-- With both mappings refused, the wait for the result ends the dispatch and the diagnostics are
unmapped although they are idle. -/
theorem unmaps_idle_of_both_refused :
    ¬ ∀ entry ∈ (after [
        .setScript { maps := [false, false] },
        .bringUp {} false,
        .dispatch {} {
          operator := .subtract
          left := .ofBits 0x41100000
          right := .ofBits 0x40000000 }]).bench.log,
      entry.call.EndsMapping entry.mapping := by
  intro obeyed
  rw [forall_log_iff] at obeyed
  have recorded := obeyed [.setScript { maps := [false, false] }, .bringUp {} false] _ List.prefix_rfl
  rw [← Call.obey_iff_entries, calls_endsMapping_iff] at recorded
  have hides : Script.HidesRefusal { maps := [false, false] } :=
    ⟨rfl, rfl, rfl, rfl, fun granted => Bool.noConfusion granted⟩
  exact recorded _ _ rfl (Option.some_ne_none _) hides

end Station

end DualEval
