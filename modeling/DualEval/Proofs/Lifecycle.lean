import DualEval.Proofs.DeviceAccount

/-!
# The lifecycle of a session

Between requests a station is ready while it has one device, and uninitialized while it has none.  A
device is given back by the very request that made it, if that fails afterwards, or by the next
shutdown.  Bringing up a ready station changes nothing, bringing up fails before a buffer is made,
and a dispatch never changes what there is.  Shutting a ready station down gives its device back with
one call, and shutting an uninitialized one down changes nothing.
-/

namespace DualEval

open Device

namespace Station

/-- Bringing a session up makes the device of this number. -/
def MadeBy (before : List Request) (settings : AcceleratorSettings) (observed : Bool) (n : Nat) :
    Prop :=
  (after before).bench.created = n ∧
    (after (before ++ [.bringUp settings observed])).bench.created = n + 1

/-- The request gives the device of this number back. -/
def ReleasedBy (before : List Request) (request : Request) (n : Nat) : Prop :=
  n ∉ (after before).bench.released ∧ n ∈ (after (before ++ [request])).bench.released

/-- How a device came to be given back in the course of a run. -/
inductive GivenBack (requests : List Request) (n : Nat) : Prop where
  | byBringUp {before : List Request} {settings : AcceleratorSettings} {observed : Bool}
      {error : AcceleratorError} (begins : before ++ [.bringUp settings observed] <+: requests)
      (made : MadeBy before settings observed n)
      (failed : ((after before).bringUp settings observed).answer = .error error)
      (released : ReleasedBy before (.bringUp settings observed) n)
  | byShutDown {before between : List Request} {settings : AcceleratorSettings} {observed : Bool}
      (begins : before ++ .bringUp settings observed :: between ++ [.shutDown] <+: requests)
      (made : MadeBy before settings observed n) (next : .shutDown ∉ between)
      (released : ReleasedBy (before ++ .bringUp settings observed :: between) .shutDown n)

theorem GivenBack.mono {requests later : List Request} {n : Nat} (given : GivenBack requests n)
    (begins : requests <+: later) : GivenBack later n := by
  cases given with
  | byBringUp begins' made failed released =>
    exact .byBringUp (begins'.trans begins) made failed released
  | byShutDown begins' made next released =>
    exact .byShutDown (begins'.trans begins) made next released

/-- The device of a session was made by bringing it up, and no shutdown came between. -/
theorem made_of_device {requests : List Request} {n : Nat}
    (inUse : (after requests).device = some n) :
    ∃ before settings observed between, requests = before ++ .bringUp settings observed :: between ∧
      MadeBy before settings observed n ∧ .shutDown ∉ between := by
  induction requests using List.reverseRecOn with
  | nil => cases inUse
  | append_singleton requests request ih =>
    have turn := turn_serve (after requests) request
    rw [after_concat] at inUse
    generalize served : (after requests).serve request = next at turn inUse
    -- only bringing up puts a device in use; all other requests keep it or take it away
    cases turn with
    | keeps device _ _ absent =>
      rw [device] at inUse
      obtain ⟨before, settings, observed, between, rfl, made, unshut⟩ := ih inUse
      refine ⟨before, settings, observed, between ++ [request], by simp, made, ?_⟩
      have other : request ≠ .shutDown := by
        intro shut
        rw [Station.device, absent shut] at inUse
        cases inUse
      simp [unshut, other.symm]
    | @makes settings observed _ _ device created _ =>
      rw [device] at inUse
      cases inUse
      refine ⟨requests, settings, observed, [], rfl, ⟨rfl, ?_⟩, List.not_mem_nil⟩
      rw [after_concat, served, created]
    | discards _ _ device _ _ =>
      rw [device] at inUse
      cases inUse
    | givesBack _ device _ _ =>
      rw [device] at inUse
      cases inUse

/-- Every device that is given back is so by the request that made it or by the next shutdown. -/
theorem givenBack_of_released {requests : List Request} {n : Nat}
    (released : n ∈ (after requests).bench.released) : GivenBack requests n := by
  induction requests using List.reverseRecOn with
  | nil => cases released
  | append_singleton requests request ih =>
    have accounted := accounted_after requests
    have turn := turn_serve (after requests) request
    have begins : requests <+: requests ++ [request] := List.prefix_append requests [request]
    have member := released
    rw [after_concat] at member
    generalize served : (after requests).serve request = next at turn member
    cases turn with
    | keeps _ _ same _ =>
      rw [same] at member
      exact (ih member).mono begins
    | makes _ _ _ _ same =>
      rw [same] at member
      exact (ih member).mono begins
    | @discards settings observed error _ answer _ created gives =>
      rw [gives, List.mem_cons] at member
      rcases member with rfl | member
      · have new : (after requests).bench.created ∉ (after requests).bench.released :=
          fun member => Nat.lt_irrefl _ (accounted.made _ member)
        refine .byBringUp List.prefix_rfl ⟨rfl, ?_⟩ answer ⟨new, released⟩
        rw [after_concat, served, created]
      · exact (ih member).mono begins
    | @givesBack m present _ _ gives =>
      rw [gives, List.mem_cons] at member
      rcases member with rfl | member
      · obtain ⟨before, settings, observed, between, rfl, made, unshut⟩ := made_of_device present
        have kept := (accounted.inUse present).2
        exact .byShutDown List.prefix_rfl made unshut ⟨kept, released⟩
      · exact (ih member).mono begins

/-! ### Calls -/

theorem lifecycle_eq_ready_iff (station : Station) :
    deviceAccelerator.lifecycle station = .ready ↔ station.session ≠ none := by
  cases present : station.session <;> simp [deviceAccelerator, SessionState.seen, present]

theorem session_of_ready {station : Station}
    (ready : deviceAccelerator.lifecycle station = .ready) :
    ∃ session, station.session = some session :=
  Option.ne_none_iff_exists'.mp ((lifecycle_eq_ready_iff station).mp ready)

theorem lifecycle_eq_uninitialized_iff (station : Station) :
    deviceAccelerator.lifecycle station = .uninitialized ↔ station.session = none := by
  cases present : station.session <;> simp [deviceAccelerator, SessionState.seen, present]

/-- An adapter has a name from the moment a session is up. -/
theorem isSome_adapterName_iff (station : Station) :
    (deviceAccelerator.adapterName station).isSome = true ↔
      deviceAccelerator.lifecycle station = .ready := by
  rw [lifecycle_eq_ready_iff, ← Option.isSome_iff_ne_none]
  change (station.session.map Session.adapter).isSome = true ↔ _
  rw [Option.isSome_map]

theorem lifecycle_ne_dispatching (station : Station) :
    deviceAccelerator.lifecycle station ≠ .dispatching := by
  cases present : station.session <;> simp [deviceAccelerator, SessionState.seen, present]

/-- The lifecycle follows from the device. -/
theorem lifecycle_eq_of_device {station other : Station} (same : station.device = other.device) :
    deviceAccelerator.lifecycle station = deviceAccelerator.lifecycle other := by
  have sessions : station.session.isSome = other.session.isSome := by
    simpa [device] using congrArg Option.isSome same
  change SessionState.seen false station.session.isSome =
    SessionState.seen false other.session.isSome
  rw [sessions]

theorem count_dropDevice_dispatching {script : Script} {timeout : Duration} {e : Expression}
    {submission : Nat} {calls : List Call} {failure : Option Breakdown}
    (course : Dispatching script timeout e submission calls failure) :
    calls.count .dropDevice = 0 := by
  have launch (caught : Option String) : (Session.launchCalls e caught).count .dropDevice = 0 := by
    simp [Session.launchCalls, Session.encodingCalls]
  cases course with
  | rejected _ => exact launch _
  | unfinished _ _ =>
    rw [List.count_append, launch]
    rfl
  | readBack _ _ course =>
    rw [List.count_append, launch]
    cases course <;> rfl

theorem count_dropDevice_bringingUp {script : Script} {settings : AcceleratorSettings}
    {observed : Bool} {calls : List Call} {error : Option AcceleratorError}
    (course : Session.BringingUp script settings observed calls error) :
    calls.count .dropDevice = if script.makesDevice && script.pipelineError.isSome then 1 else 0 := by
  cases course with
  | noAdapter missing =>
    simp [Script.makesDevice, missing, Session.adapterCall]
  | noDevice _ missing =>
    simp [Script.makesDevice, missing, Session.adapterCall]
  | kernelRefused makes refused =>
    rw [makes, refused]
    rfl
  | broughtUp makes accepted =>
    rw [makes, accepted]
    rfl

/-- A device is given back with a call, and no such call is made otherwise. -/
theorem length_released_serve (station : Station) (request : Request) :
    (station.serve request).bench.released.length =
      (station.calls request).count .dropDevice + station.bench.released.length := by
  cases request with
  | setScript script => exact (Nat.zero_add _).symm
  | bringUp settings observed =>
    rw [serve, calls]
    cases present : station.session with
    | some session =>
      rw [bringUp_of_session present]
      exact (Nat.zero_add _).symm
    | none =>
      have course := Session.bringingUp_bringUpCalls station.bench.script settings observed
      rw [released_bringUp present, count_dropDevice_bringingUp course]
      split
      · exact Nat.add_comm _ 1
      · exact (Nat.zero_add _).symm
  | dispatch settings e =>
    rw [serve, calls]
    cases present : station.session with
    | none =>
      rw [dispatch_of_none present]
      exact (Nat.zero_add _).symm
    | some session =>
      have course := dispatching_dispatchSteps station.bench.script settings.readbackTimeout e
        (session.device.submissions + 1)
      have account := Session.evaluate_keeps_account settings.readbackTimeout e
        station.bench.created station.bench.released
        { bench := station.bench, device := session.device } ⟨rfl, rfl⟩
      rw [dispatch_of_session present, count_dropDevice_dispatching course, Nat.zero_add]
      exact congrArg List.length account.2
  | shutDown =>
    rw [serve, calls]
    cases present : station.session with
    | some session =>
      rw [shutDown_of_session present]
      exact Nat.add_comm _ 1
    | none =>
      rw [shutDown_of_none present]
      exact (Nat.zero_add _).symm

theorem count_dropDevice_after (requests : List Request) :
    ((after requests).bench.log.map Entry.call).count .dropDevice =
      (after requests).bench.released.length := by
  induction requests using List.reverseRecOn with
  | nil => rfl
  | append_singleton requests request ih =>
    rw [after_concat, log_serve (rests_after requests), List.map_append, List.count_append, ih,
      Call.map_call_entries, length_released_serve, Nat.add_comm]

/-- No buffer is made by bringing a session up in vain. -/
theorem createBuffer_notMem {script : Script} {settings : AcceleratorSettings} {observed : Bool}
    {calls : List Call} {error : AcceleratorError}
    (course : Session.BringingUp script settings observed calls (some error)) (buffer : Buffer) :
    .createBuffer buffer ∉ calls := by
  cases course with
  | noAdapter _ => simp [Session.adapterCall]
  | noDevice _ _ => simp [Session.adapterCall]
  | kernelRefused _ _ => simp [Session.adapterCall, Session.pipelineCalls]

/-! ### The lifecycle -/

theorem Accounted.length_alive_iff {station : Station} (accounted : station.Accounted) :
    station.bench.alive.length = 1 ↔ station.session ≠ none := by
  rw [accounted.alive, device]
  cases station.session <;> simp

theorem Accounted.alive_eq_nil_iff {station : Station} (accounted : station.Accounted) :
    station.bench.alive = [] ↔ station.session = none := by
  rw [accounted.alive, device]
  cases station.session <;> simp

section BringUp

variable {station : Station} {settings : AcceleratorSettings} {observed : Bool}
  {error : AcceleratorError}

/-- Bringing up fails only without a session, and with the error of the script. -/
theorem bringUp_failed (failed : (station.bringUp settings observed).answer = .error error) :
    station.session = none ∧ station.bench.script.bringUpError = some error := by
  cases present : station.session with
  | some session =>
    rw [bringUp_of_session present] at failed
    cases failed
  | none =>
    rw [answer_bringUp present] at failed
    cases outcome : station.bench.script.bringUpError with
    | none =>
      rw [outcome] at failed
      cases failed
    | some other =>
      rw [outcome] at failed
      cases failed
      exact ⟨rfl, rfl⟩

theorem bringUp_failed_session (failed : (station.bringUp settings observed).answer = .error error) :
    (station.bringUp settings observed).state.session = none := by
  obtain ⟨absent, outcome⟩ := bringUp_failed failed
  rw [session_bringUp absent, outcome]

theorem bringUp_failed_log (rests : station.Rests)
    (failed : (station.bringUp settings observed).answer = .error error) :
    ∃ entries, (station.bringUp settings observed).state.bench.log = station.bench.log ++ entries ∧
      ∀ entry ∈ entries, ∀ buffer, entry.call ≠ .createBuffer buffer := by
  obtain ⟨absent, outcome⟩ := bringUp_failed failed
  have course := Session.bringingUp_bringUpCalls station.bench.script settings observed
  rw [outcome] at course
  refine ⟨_, log_serve rests (.bringUp settings observed), ?_⟩
  intro entry recorded buffer made
  have member := List.mem_map_of_mem (f := Entry.call) recorded
  rw [Call.map_call_entries, made, calls, absent] at member
  exact createBuffer_notMem course buffer member

theorem bringUp_succeeded (succeeded : (station.bringUp settings observed).answer = .ok ()) :
    (station.bringUp settings observed).state.session ≠ none := by
  cases present : station.session with
  | some session =>
    rw [bringUp_of_session present, present]
    exact Option.some_ne_none session
  | none =>
    rw [answer_bringUp present] at succeeded
    rw [session_bringUp present]
    cases outcome : station.bench.script.bringUpError with
    | none => exact Option.some_ne_none _
    | some error =>
      rw [outcome] at succeeded
      cases succeeded

theorem bringUp_of_clean (adapter : station.bench.script.adapterError = none)
    (device : station.bench.script.deviceError = none)
    (pipeline : station.bench.script.pipelineError = none) :
    (station.bringUp settings observed).answer = .ok () := by
  cases present : station.session with
  | some session => rw [bringUp_of_session present]
  | none => rw [answer_bringUp present, Script.bringUpError, adapter, device, pipeline]

end BringUp

section InSession

variable {station : Station} {session : Session}

theorem Accounted.alive_of_session (accounted : station.Accounted)
    (present : station.session = some session) : station.bench.alive = [session.number] := by
  rw [accounted.alive, device, present]
  rfl

/-- Nothing is left after a shutdown. -/
theorem Accounted.alive_shutDown (accounted : station.Accounted) :
    station.shutDown.state.bench.alive = [] := by
  have kept : station.shutDown.state.Accounted :=
    accounted_turn accounted (turn_serve station .shutDown)
  rw [kept.alive_eq_nil_iff]
  cases present : station.session with
  | none => rw [shutDown_of_none present, present]
  | some session => rw [shutDown_of_session present]

theorem dispatch_keeps_devices (station : Station) (settings : AcceleratorSettings)
    (e : Expression) :
    (station.dispatch settings e).state.bench.created = station.bench.created ∧
      (station.dispatch settings e).state.bench.released = station.bench.released ∧
      deviceAccelerator.lifecycle (station.dispatch settings e).state =
        deviceAccelerator.lifecycle station := by
  cases turn_dispatch station settings e with
  | keeps device created released _ => exact ⟨created, released, lifecycle_eq_of_device device⟩

theorem toError_ne_notInitialized (timeout : Duration) (breakdown : Breakdown) :
    breakdown.toError timeout ≠ .notInitialized := by
  cases breakdown with
  | wait stage cause => cases cause <;> rintro ⟨⟩
  | rejected error => rintro ⟨⟩
  | mapRefused buffer => rintro ⟨⟩
  | wrongLength buffer expected actual => rintro ⟨⟩

/-- A dispatch is answered that there is no session only if there is none. -/
theorem dispatch_ne_notInitialized (rests : station.Rests) (present : station.session = some session)
    (settings : AcceleratorSettings) (e : Expression) :
    (station.dispatch settings e).answer ≠ .error .notInitialized := by
  rw [answer_of_fresh present (rests session present).fresh, verdict]
  cases station.bench.script.checks.findSome? id with
  | none => rintro ⟨⟩
  | some breakdown =>
    exact fun same => toError_ne_notInitialized _ breakdown (Except.error.inj same)

/-- A dispatch in a session calls the device. -/
theorem dispatch_log (rests : station.Rests) (present : station.session = some session)
    (settings : AcceleratorSettings) (e : Expression) :
    ∃ entries, entries ≠ [] ∧
      (station.dispatch settings e).state.bench.log = station.bench.log ++ entries := by
  have course := dispatching_dispatchSteps station.bench.script settings.readbackTimeout e
    (session.device.submissions + 1)
  refine ⟨_, ?_, log_serve rests (.dispatch settings e)⟩
  intro none
  have calls := congrArg (List.map Entry.call) none
  rw [Call.map_call_entries, Station.calls, present] at calls
  change Step.performed _ = [] at calls
  rw [calls] at course
  cases course

end InSession

/-- The lifecycle of a session after a run of requests.  To look at its state or at the name of its
adapter is no request: both are functions of the station. -/
structure Lifecycle (requests : List Request) : Prop where
  ready_iff : deviceAccelerator.lifecycle (after requests) = .ready ↔
    (after requests).bench.alive.length = 1
  uninitialized_iff : deviceAccelerator.lifecycle (after requests) = .uninitialized ↔
    (after requests).bench.alive = []
  ne_dispatching : deviceAccelerator.lifecycle (after requests) ≠ .dispatching
  named_iff : (deviceAccelerator.adapterName (after requests)).isSome = true ↔
    deviceAccelerator.lifecycle (after requests) = .ready
  once : (after requests).bench.released.Nodup
  dropped : ((after requests).bench.log.map Entry.call).count .dropDevice =
    (after requests).bench.released.length
  givenBack : ∀ n ∈ (after requests).bench.released, GivenBack requests n
  bringUp_ready : ∀ settings observed, deviceAccelerator.lifecycle (after requests) = .ready →
    (after requests).bringUp settings observed = ⟨.ok (), after requests, []⟩
  bringUp_answer : ∀ settings observed,
    deviceAccelerator.lifecycle (after requests) = .uninitialized →
    ((after requests).bringUp settings observed).answer =
      match (after requests).bench.script.bringUpError with
      | some error => .error error
      | none => .ok ()
  bringUp_error : ∀ settings observed error,
    ((after requests).bringUp settings observed).answer = .error error →
    deviceAccelerator.lifecycle ((after requests).bringUp settings observed).state = .uninitialized ∧
      ∃ entries, ((after requests).bringUp settings observed).state.bench.log =
          (after requests).bench.log ++ entries ∧
        ∀ entry ∈ entries, ∀ buffer, entry.call ≠ .createBuffer buffer
  bringUp_clean : ∀ script settings observed, script.adapterError = none →
    script.deviceError = none → script.pipelineError = none →
    (((after requests).withScript script).bringUp settings observed).answer = .ok () ∧
      deviceAccelerator.lifecycle
        (((after requests).withScript script).bringUp settings observed).state = .ready
  dispatch_keeps : ∀ settings e,
    ((after requests).dispatch settings e).state.bench.created = (after requests).bench.created ∧
      ((after requests).dispatch settings e).state.bench.released =
        (after requests).bench.released ∧
      deviceAccelerator.lifecycle ((after requests).dispatch settings e).state =
        deviceAccelerator.lifecycle (after requests)
  dispatch_uninitialized : ∀ settings e,
    deviceAccelerator.lifecycle (after requests) = .uninitialized →
    (after requests).dispatch settings e = ⟨.error .notInitialized, after requests, []⟩
  dispatch_ready : ∀ settings e, deviceAccelerator.lifecycle (after requests) = .ready →
    ((after requests).dispatch settings e).answer ≠ .error .notInitialized ∧
      ∃ entries, entries ≠ [] ∧ ((after requests).dispatch settings e).state.bench.log =
        (after requests).bench.log ++ entries
  shutDown_ready : deviceAccelerator.lifecycle (after requests) = .ready →
    ∃ n, (after requests).bench.alive = [n] ∧
      (after requests).shutDown.state.bench.created = (after requests).bench.created ∧
      (after requests).shutDown.state.bench.released = n :: (after requests).bench.released ∧
      (after requests).shutDown.state.bench.alive = [] ∧
      (after requests).shutDown.state.bench.log =
        (after requests).bench.log ++ [{ call := .dropDevice }] ∧
      deviceAccelerator.lifecycle (after requests).shutDown.state = .uninitialized
  shutDown_uninitialized : deviceAccelerator.lifecycle (after requests) = .uninitialized →
    (after requests).shutDown = ⟨(), after requests, []⟩

/-- **The lifecycle holds after every run of requests**, whatever the scripts. -/
theorem lifecycle_after (requests : List Request) : Lifecycle requests := by
  have accounted := accounted_after requests
  constructor
  case ready_iff => rw [lifecycle_eq_ready_iff, accounted.length_alive_iff]
  case uninitialized_iff => rw [lifecycle_eq_uninitialized_iff, accounted.alive_eq_nil_iff]
  case ne_dispatching => exact lifecycle_ne_dispatching _
  case named_iff => exact isSome_adapterName_iff _
  case once => exact accounted.once
  case dropped => exact count_dropDevice_after requests
  case givenBack => exact fun n released => givenBack_of_released released
  case bringUp_ready =>
    intro settings observed ready
    obtain ⟨session, present⟩ := session_of_ready ready
    exact bringUp_of_session present
  case bringUp_answer =>
    intro settings observed uninitialized
    exact answer_bringUp ((lifecycle_eq_uninitialized_iff _).mp uninitialized)
  case bringUp_error =>
    intro settings observed error failed
    rw [lifecycle_eq_uninitialized_iff]
    exact ⟨bringUp_failed_session failed, bringUp_failed_log (rests_after requests) failed⟩
  case bringUp_clean =>
    intro script settings observed adapter device pipeline
    have succeeded : (((after requests).withScript script).bringUp settings observed).answer =
        .ok () := bringUp_of_clean adapter device pipeline
    rw [lifecycle_eq_ready_iff]
    exact ⟨succeeded, bringUp_succeeded succeeded⟩
  case dispatch_keeps => exact dispatch_keeps_devices (after requests)
  case dispatch_uninitialized =>
    intro settings e uninitialized
    exact dispatch_of_none ((lifecycle_eq_uninitialized_iff _).mp uninitialized) e
  case dispatch_ready =>
    intro settings e ready
    have rests := rests_after requests
    obtain ⟨session, present⟩ := session_of_ready ready
    exact ⟨dispatch_ne_notInitialized rests present settings e,
      dispatch_log rests present settings e⟩
  case shutDown_ready =>
    intro ready
    obtain ⟨session, present⟩ := session_of_ready ready
    have emptied := accounted.alive_shutDown
    rw [lifecycle_eq_uninitialized_iff]
    rw [shutDown_of_session present] at emptied ⊢
    exact ⟨session.number, accounted.alive_of_session present, rfl, rfl, emptied,
      Session.log_release _ _, rfl⟩
  case shutDown_uninitialized =>
    intro uninitialized
    exact shutDown_of_none ((lifecycle_eq_uninitialized_iff _).mp uninitialized)

end Station

end DualEval
