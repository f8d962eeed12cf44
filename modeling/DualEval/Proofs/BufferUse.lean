import DualEval.Proofs.StationCalls

/-!
# The use of the staging buffers

A mapping is requested of an idle buffer only, work is submitted only while both buffers are idle,
and a range is read only of a mapping that the same dispatch has requested and seen granted.
However a request ends, both buffers are idle afterwards and no error scope is left open.
-/

namespace DualEval

open Device

namespace Device

/-- The call may be made while the staging buffers do this. -/
def Call.Allowed (doing : Staging → Mapping) : Call → Prop
  | mapAsync buffer _ => doing buffer = .idle
  | submit _ _ => ∀ buffer, doing buffer = .idle
  | getMappedRange buffer _ => doing buffer = .mapped true
  | _ => True

/-- One of the calls requests a mapping of the buffer that is to be granted, a later one lets its
callback fire, and none ends it after the request. -/
def Granted (buffer : Staging) (calls : List Call) : Prop :=
  ∃ before between submission timeout later,
    calls = before ++ .mapAsync buffer true :: (between ++ .poll submission timeout .ok :: later) ∧
      .unmap buffer ∉ between ++ later

def Call.closesScope : Call → Bool
  | popErrorScope _ => true
  | _ => false

def Call.Balanced (calls : List Call) : Prop :=
  calls.count .pushErrorScope = calls.countP closesScope

/-- What the calls of one request keep to. -/
structure Orderly (entries : List Entry) : Prop where
  allowed : ∀ entry ∈ entries, entry.call.Allowed entry.mapping
  granted : ∀ earlier entry later buffer byteCount, entries = earlier ++ entry :: later →
    entry.call = .getMappedRange buffer byteCount → Granted buffer (earlier.map Entry.call)
  balanced : Call.Balanced (entries.map Entry.call)

/-! ### A mapping has a history -/

variable {buffer : Staging} {m : Mapping} {call : Call} {calls : List Call}

theorem Call.replay_concat (doing : Staging → Mapping) (calls : List Call) (call : Call)
    (buffer : Staging) :
    replay doing (calls ++ [call]) buffer = call.effect buffer (replay doing calls buffer) := by
  rw [replay_append]
  rfl

theorem Call.effect_unmap (buffer : Staging) (m : Mapping) :
    effect (.unmap buffer) buffer m = .idle := if_pos rfl

theorem Mapping.after_eq_pending {outcome : PollOutcome}
    (pending : m.after outcome = .pending true) : m = .pending true := by
  rcases m with _ | (_ | _) | _ <;> cases outcome <;> first | rfl | cases pending

theorem Mapping.after_eq_mapped {outcome : PollOutcome} (mapped : m.after outcome = .mapped true) :
    outcome = .ok ∧ m = .pending true ∨ m = .mapped true := by
  rcases m with _ | (_ | _) | (_ | _) <;> cases outcome <;>
    first | exact .inl ⟨rfl, rfl⟩ | exact .inr rfl | cases mapped

theorem Call.effect_eq_pending (pending : call.effect buffer m = .pending true) :
    call = .mapAsync buffer true ∨ m = .pending true := by
  cases call with
  | poll submission timeout outcome => exact .inr (Mapping.after_eq_pending pending)
  | mapAsync owner granted =>
    by_cases same : owner = buffer
    · subst same
      obtain rfl : granted = true := by simpa [effect] using pending
      exact .inl rfl
    · exact .inr (by simpa [effect, same] using pending)
  | unmap owner =>
    by_cases same : owner = buffer
    · simp [effect, same] at pending
    · exact .inr (by simpa [effect, same] using pending)
  | _ => exact .inr pending

theorem Call.effect_eq_mapped (mapped : call.effect buffer m = .mapped true) :
    (∃ submission timeout, call = .poll submission timeout .ok) ∧ m = .pending true ∨
      m = .mapped true := by
  cases call with
  | poll submission timeout outcome =>
    rcases Mapping.after_eq_mapped mapped with ⟨rfl, pending⟩ | earlier
    · exact .inl ⟨⟨submission, timeout, rfl⟩, pending⟩
    · exact .inr earlier
  | mapAsync owner granted =>
    by_cases same : owner = buffer
    · simp [effect, same] at mapped
    · exact .inr (by simpa [effect, same] using mapped)
  | unmap owner =>
    by_cases same : owner = buffer
    · simp [effect, same] at mapped
    · exact .inr (by simpa [effect, same] using mapped)
  | _ => exact .inr mapped

/-- A mapping still to be granted was requested, and not ended since. -/
theorem requested_of_replay (pending : Call.replay idle calls buffer = .pending true) :
    ∃ before later, calls = before ++ .mapAsync buffer true :: later ∧ .unmap buffer ∉ later := by
  induction calls using List.reverseRecOn with
  | nil => cases pending
  | append_singleton calls call ih =>
    rw [Call.replay_concat] at pending
    rcases Call.effect_eq_pending pending with rfl | earlier
    · exact ⟨calls, [], rfl, List.not_mem_nil⟩
    · obtain ⟨before, later, rfl, unended⟩ := ih earlier
      have kept : call ≠ .unmap buffer := by
        intro ended
        subst ended
        rw [Call.effect_unmap] at pending
        cases pending
      exact ⟨before, later ++ [call], by simp, by simp [unended, kept.symm]⟩

/-- A mapping that is reported as granted was requested and its callback has fired since. -/
theorem granted_of_replay (mapped : Call.replay idle calls buffer = .mapped true) :
    Granted buffer calls := by
  -- the last call either reports the mapping or leaves it as it is
  induction calls using List.reverseRecOn with
  | nil => cases mapped
  | append_singleton calls call ih =>
    rw [Call.replay_concat] at mapped
    rcases Call.effect_eq_mapped mapped with ⟨⟨submission, timeout, rfl⟩, pending⟩ | earlier
    · obtain ⟨before, between, rfl, unended⟩ := requested_of_replay pending
      exact ⟨before, between, submission, timeout, [], by simp, by simpa using unended⟩
    · have kept : call ≠ .unmap buffer := by
        intro ended
        subst ended
        rw [Call.effect_unmap] at mapped
        cases mapped
      obtain ⟨before, between, submission, timeout, later, rfl, unended⟩ := ih earlier
      refine ⟨before, between, submission, timeout, later ++ [call], by simp, ?_⟩
      rw [← List.append_assoc, List.mem_append, List.mem_singleton]
      intro ended
      rcases ended with ended | ended
      · exact unended ended
      · exact kept ended.symm

/-! ### The calls of a dispatch -/

section Courses

variable {script : Script} {timeout : Duration} {first second : PollOutcome} {e : Expression}
  {submission : Nat} {failure : Option Breakdown}

/-- A granted mapping stays reported through every later poll. -/
theorem Mapping.after_reported (outcome : PollOutcome) :
    (mapped true).after outcome = mapped true := by
  cases outcome <;> rfl

theorem mapped_of_granted (timeout : Duration) (second : PollOutcome)
    (granted : script.grants 0 = true) (granted' : script.grants 1 = true) (buffer : Staging) :
    Call.replay script.requested [.poll none timeout .ok, .poll none timeout second] buffer =
      .mapped true := by
  have reported : script.requested buffer = .pending true := by
    cases buffer with
    | result => exact congrArg Mapping.pending granted
    | diagnostics => exact congrArg Mapping.pending granted'
  change (script.requested buffer).settle.after second = .mapped true
  rw [reported]
  exact Mapping.after_reported second

theorem Readback.obeys (course : Readback script timeout first second calls failure) :
    Call.Obey Call.Allowed script.requested calls := by
  cases course with
  | unfired _ => simp [Call.Obey, Call.Allowed]
  | resultRefused _ _ => simp [Call.Obey, Call.Allowed]
  | brokenOff _ _ _ => simp [Call.Obey, Call.Allowed]
  | diagnosticsRefused _ _ _ _ => simp [Call.Obey, Call.Allowed]
  | resultUnread _ granted _ granted' _ =>
    have mapped := mapped_of_granted timeout second granted granted'
    exact ⟨trivial, trivial, mapped .result, trivial, trivial, trivial⟩
  | read _ granted _ granted' _ =>
    have mapped := mapped_of_granted timeout second granted granted'
    exact ⟨trivial, trivial, mapped .result, mapped .diagnostics, trivial, trivial, trivial⟩

theorem launchCalls_obeys (e : Expression) (caught : Option String) :
    Call.Obey Call.Allowed idle (Session.launchCalls e caught) := by
  simp [Session.launchCalls, Session.encodingCalls, Call.Obey, Call.Allowed, idle, Call.act,
    Call.effect]

theorem Dispatching.obeys (course : Dispatching script timeout e submission calls failure) :
    Call.Obey Call.Allowed idle calls := by
  cases course with
  | rejected _ => exact launchCalls_obeys e _
  | unfinished _ _ =>
    rw [Call.obey_append]
    exact ⟨launchCalls_obeys e _, trivial, trivial⟩
  | @readBack calls _ _ _ course =>
    have read : Call.Obey Call.Allowed (Call.replay idle [.poll (some submission) timeout .ok,
        .mapAsync .result (script.grants 0), .mapAsync .diagnostics (script.grants 1)]) calls := by
      rw [act_requests]
      exact course.obeys
    rw [Call.obey_append, replay_launchCalls]
    exact ⟨launchCalls_obeys e _, trivial, rfl, rfl, read⟩

theorem Call.Balanced.append {earlier later : List Call} (first : Balanced earlier)
    (next : Balanced later) : Balanced (earlier ++ later) := by
  rw [Balanced, List.count_append, List.countP_append, first, next]

theorem balanced_launchCalls (e : Expression) (caught : Option String) :
    Call.Balanced (Session.launchCalls e caught) := by
  simp [Session.launchCalls, Session.encodingCalls, Call.Balanced, Call.closesScope]

theorem Dispatching.balanced (course : Dispatching script timeout e submission calls failure) :
    Call.Balanced calls := by
  cases course with
  | rejected _ => exact balanced_launchCalls e _
  | unfinished _ _ => exact (balanced_launchCalls e none).append rfl
  | readBack _ _ course =>
    apply (balanced_launchCalls e none).append
    cases course <;> rfl

end Courses

/-- Calls that are allowed are made on mappings that the same calls have requested. -/
theorem orderly_entries (allowed : Call.Obey Call.Allowed idle calls)
    (balanced : Call.Balanced calls) : Orderly (Call.entries idle calls) := by
  have recorded := (Call.obey_iff_entries idle calls).mp allowed
  refine ⟨recorded, ?_, ?_⟩
  · intro earlier entry later buffer byteCount split read
    have mapped := recorded entry (by simp [split])
    rw [read, Call.mapping_of_entries split] at mapped
    exact granted_of_replay mapped
  · rw [Call.map_call_entries]
    exact balanced

end Device

namespace Session

variable {script : Script} {settings : AcceleratorSettings} {observed : Bool} {calls : List Call}
  {error : Option AcceleratorError}

theorem BringingUp.obeys (course : BringingUp script settings observed calls error) :
    Call.Obey Call.Allowed idle calls := by
  cases course with
  | noAdapter _ => exact ⟨trivial, trivial⟩
  | noDevice _ _ => exact ⟨trivial, trivial, trivial⟩
  | kernelRefused _ _ => simp [adapterCall, pipelineCalls, Call.Obey, Call.Allowed]
  | broughtUp _ _ =>
    simp [adapterCall, pipelineCalls, bufferCalls, Buffer.all, Call.Obey, Call.Allowed]

theorem BringingUp.balanced (course : BringingUp script settings observed calls error) :
    Call.Balanced calls := by
  cases course <;> rfl

end Session

namespace Station

theorem orderly_calls (station : Station) (request : Request) :
    Orderly (Call.entries idle (station.calls request)) := by
  have nothing : Orderly (Call.entries idle []) := orderly_entries trivial rfl
  cases request with
  | setScript script => exact nothing
  | bringUp settings observed =>
    rw [calls]
    split
    · exact nothing
    · have course := Session.bringingUp_bringUpCalls station.bench.script settings observed
      exact orderly_entries course.obeys course.balanced
  | dispatch settings e =>
    rw [calls]
    split
    · next session _ =>
      have course := dispatching_dispatchSteps station.bench.script settings.readbackTimeout e
        (session.device.submissions + 1)
      exact orderly_entries course.obeys course.balanced
    · exact nothing
  | shutDown =>
    rw [calls]
    split
    · exact orderly_entries ⟨trivial, trivial⟩ rfl
    · exact nothing

/-- **The buffers can be used again after every request.** Whatever was asked of the station before,
and under any scripts, the calls of a request are orderly, and when it answers, the staging buffers
of the session are idle and no error scope is open. -/
theorem buffers_reusable (requests : List Request) (request : Request) :
    (∃ entries, (after (requests ++ [request])).bench.log = (after requests).bench.log ++ entries ∧
      Orderly entries) ∧
    ∀ session, (after (requests ++ [request])).session = some session →
      (∀ buffer, session.device.mapping buffer = .idle) ∧ session.device.scopes = [] := by
  have rests := rests_after requests
  rw [after_concat]
  constructor
  · exact ⟨_, log_serve rests request, orderly_calls _ request⟩
  · intro session present
    have rest := rests_serve rests request session present
    exact ⟨fun buffer => congrFun rest.mapping buffer, rest.scopes⟩

end Station

end DualEval
