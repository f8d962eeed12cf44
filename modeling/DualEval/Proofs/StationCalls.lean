import Mathlib.Data.List.Induction
import DualEval.Proofs.DispatchCourse
import DualEval.Proofs.EvaluationFrame
import DualEval.Proofs.SessionStart
import DualEval.Proofs.StationRuns

/-!
# The calls of a station

Between requests a session rests: its staging buffers are idle, no error scope is open, and signals
still to be drawn are not in use.  From rest, what a request leaves on record is a list of calls
that depends on the script in force and on whether there is a session.
-/

namespace DualEval

open Device

variable {station : Station} {session : Session} {settings : AcceleratorSettings} {observed : Bool}

/-- The session is at rest. -/
structure Session.Rests (session : Session) : Prop where
  fresh : session.device.Fresh
  mapping : session.device.mapping = idle
  scopes : session.device.scopes = []

namespace Station

/-- The session, if there is one, is at rest. -/
def Rests (station : Station) : Prop := ∀ session, station.session = some session → session.Rests

/-- The calls that a request makes on a station whose session, if there is one, is at rest. -/
def calls (station : Station) : Request → List Call
  | .setScript _ => []
  | .bringUp settings observed =>
    match station.session with
    | some _ => []
    | none => Session.bringUpCalls station.bench.script settings observed
  | .dispatch settings e =>
    match station.session with
    | some session =>
      Step.performed (station.bench.script.dispatchSteps settings.readbackTimeout e
        (session.device.submissions + 1))
    | none => []
  | .shutDown =>
    match station.session with
    | some _ => [.dropDevice]
    | none => []

/-! ### Bringing up -/

theorem bringUp_of_session (present : station.session = some session) :
    station.bringUp settings observed = ⟨.ok (), station, []⟩ := by
  rw [bringUp, present]

theorem bringUp_of_none (absent : station.session = none) :
    (station.bringUp settings observed).answer =
        (Session.acquire station.bench settings observed).1.map (fun _ => ()) ∧
      (station.bringUp settings observed).state =
        { bench := (Session.acquire station.bench settings observed).2
          session := (Session.acquire station.bench settings observed).1.toOption } := by
  rw [bringUp, absent]
  rcases Session.acquire station.bench settings observed with ⟨outcome, after⟩
  cases outcome <;> exact ⟨rfl, rfl⟩

theorem answer_bringUp (absent : station.session = none) :
    (station.bringUp settings observed).answer = match station.bench.script.bringUpError with
      | some error => .error error
      | none => .ok () := by
  rw [(bringUp_of_none absent).1, (Session.acquire_acquires station.bench settings observed).answer]
  cases station.bench.script.bringUpError <;> rfl

theorem session_bringUp (absent : station.session = none) :
    (station.bringUp settings observed).state.session =
      match station.bench.script.bringUpError with
      | some _ => none
      | none => some {
          adapter := station.bench.script.adapterName
          number := station.bench.created
          device := {} } := by
  rw [(bringUp_of_none absent).2]
  change (Session.acquire station.bench settings observed).1.toOption = _
  rw [(Session.acquire_acquires station.bench settings observed).answer]
  cases station.bench.script.bringUpError <;> rfl

theorem rests_new (adapter : String) (number : Nat) :
    ({ adapter, number, device := {} } : Session).Rests where
  fresh := ⟨List.forall_mem_nil _, List.forall_mem_nil _⟩
  mapping := mapping_new
  scopes := rfl

theorem rests_bringUp (rests : station.Rests) (settings : AcceleratorSettings) (observed : Bool) :
    (station.bringUp settings observed).state.Rests := by
  cases present : station.session with
  | some session =>
    rw [bringUp_of_session present]
    exact rests
  | none =>
    intro session brought
    rw [session_bringUp present] at brought
    split at brought
    · cases brought
    · cases brought
      exact rests_new _ _

/-! ### Dispatching -/

theorem dispatch_of_none (absent : station.session = none) (e : Expression) :
    station.dispatch settings e = ⟨.error .notInitialized, station, []⟩ := by
  rw [dispatch, absent]

theorem dispatch_of_session (present : station.session = some session) (e : Expression) :
    (station.dispatch settings e).state =
      let after := (Session.evaluate settings.readbackTimeout e
        { bench := station.bench, device := session.device }).2
      { bench := after.bench, session := some { session with device := after.device } } := by
  rw [dispatch, present]

theorem answer_of_session (present : station.session = some session) (e : Expression) :
    (station.dispatch settings e).answer =
      (Session.evaluate settings.readbackTimeout e
        { bench := station.bench, device := session.device }).1.mapError
          (·.toError settings.readbackTimeout) := by
  rw [dispatch, present]

/-- A dispatch in a session answers by the checks of the script in force. -/
theorem answer_of_fresh (present : station.session = some session) (fresh : session.device.Fresh)
    (e : Expression) :
    (station.dispatch settings e).answer =
      (verdict station.bench.script.checks (station.bench.script.written e)).mapError
        (·.toError settings.readbackTimeout) := by
  let rig : Rig := { bench := station.bench, device := session.device }
  have fresh : rig.device.Fresh := fresh
  rw [answer_of_session present, Session.evaluate_answer fresh]

theorem makes_dispatch (rests : session.Rests) (bench : Bench) (timeout : Duration)
    (e : Expression) :
    Rig.Makes { bench, device := session.device }
      (Step.performed (bench.script.dispatchSteps timeout e (session.device.submissions + 1)))
      (Session.evaluate timeout e { bench, device := session.device }).2 :=
  (Session.evaluate_takes rests.fresh timeout e).calls

theorem rests_dispatch (rests : station.Rests) (settings : AcceleratorSettings) (e : Expression) :
    (station.dispatch settings e).state.Rests := by
  cases present : station.session with
  | none =>
    rw [dispatch_of_none present]
    exact rests
  | some session =>
    have rest := rests session present
    rw [dispatch_of_session present]
    intro after dispatched
    cases dispatched
    constructor
    · exact Session.evaluate_keeps_fresh settings.readbackTimeout e _ rest.fresh
    · have replayed := (makes_dispatch rest station.bench settings.readbackTimeout e).mapping
      change _ = Call.replay session.device.mapping _ at replayed
      rw [rest.mapping, (dispatching_dispatchSteps _ _ _ _).replay] at replayed
      exact replayed
    · exact Session.evaluate_keeps_scopes settings.readbackTimeout e [] _ rest.scopes

/-! ### Shutting down -/

theorem shutDown_of_none (absent : station.session = none) :
    station.shutDown = ⟨(), station, []⟩ := by
  rw [shutDown, absent]

theorem shutDown_of_session (present : station.session = some session) :
    station.shutDown = ⟨(), { bench := station.bench.release session.number, session := none },
      [.sessionShutDown]⟩ := by
  rw [shutDown, present]

/-! ### All requests -/

theorem rests_serve (rests : station.Rests) (request : Request) : (station.serve request).Rests := by
  cases request with
  | setScript script => exact rests
  | bringUp settings observed => exact rests_bringUp rests settings observed
  | dispatch settings e => exact rests_dispatch rests settings e
  | shutDown =>
    rw [serve]
    cases present : station.session with
    | some session =>
      rw [shutDown_of_session present]
      rintro _ ⟨⟩
    | none =>
      rw [shutDown_of_none present]
      exact rests

/-- A session is at rest between requests. -/
theorem rests_after (requests : List Request) : (after requests).Rests := by
  apply after_induction
  · intro session present
    cases present
  · intro station request rests
    exact rests_serve rests request

/-- **What a request leaves on record** are its calls, replayed from idle staging buffers. -/
theorem log_serve (rests : station.Rests) (request : Request) :
    (station.serve request).bench.log =
      station.bench.log ++ Call.entries idle (station.calls request) := by
  cases request with
  | setScript script => exact (List.append_nil _).symm
  | bringUp settings observed =>
    rw [serve, calls]
    cases present : station.session with
    | some session =>
      rw [bringUp_of_session present]
      exact (List.append_nil _).symm
    | none =>
      rw [(bringUp_of_none present).2]
      exact (Session.acquire_acquires station.bench settings observed).log
  | dispatch settings e =>
    rw [serve, calls]
    cases present : station.session with
    | none =>
      rw [dispatch_of_none present]
      exact (List.append_nil _).symm
    | some session =>
      have rest := rests session present
      have made := (makes_dispatch rest station.bench settings.readbackTimeout e).log
      rw [dispatch_of_session present, ← rest.mapping]
      exact made
  | shutDown =>
    rw [serve, calls]
    cases present : station.session with
    | some session =>
      rw [shutDown_of_session present]
      exact Session.log_release station.bench session.number
    | none =>
      rw [shutDown_of_none present]
      exact (List.append_nil _).symm

/-- A rule of the record is a rule of each request of the run. -/
theorem forall_log_iff {P : Entry → Prop} (requests : List Request) :
    (∀ entry ∈ (after requests).bench.log, P entry) ↔
      ∀ before request, before ++ [request] <+: requests →
        ∀ entry ∈ Call.entries idle ((after before).calls request), P entry := by
  induction requests using List.reverseRecOn with
  | nil =>
    constructor
    · intro _ before request begins
      simp at begins
    · intro _ entry recorded
      exact absurd recorded List.not_mem_nil
  | append_singleton requests request ih =>
    -- the runs that begin the longer run are those that begin the shorter one, and the whole
    rw [after_concat, log_serve (rests_after requests), List.forall_mem_append, ih]
    constructor
    · intro ⟨earlier, last⟩ before request' begins
      rcases List.prefix_concat_iff.mp begins with whole | begins
      · obtain ⟨rfl, same⟩ := List.append_inj' whole rfl
        cases same
        exact last
      · exact earlier before request' begins
    · intro all
      constructor
      · intro before request' begins
        exact all before request' (begins.trans (List.prefix_append requests [request]))
      · exact all requests request List.prefix_rfl

end Station

end DualEval
