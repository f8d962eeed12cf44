import DualEval.Proofs.StationCalls

/-!
# The account of devices

A station has one device while it has a session, and none otherwise.  A device is made by bringing a
session up and given back once: at once, if bringing up fails after it was made, or else by the next
shutdown.  Nothing else makes a device or gives one back.
-/

namespace DualEval

open Device

/-- The devices that were made and are not given back. -/
def Device.Bench.alive (bench : Bench) : List Nat :=
  (List.range bench.created).filter fun n => n ∉ bench.released

namespace Station

/-- The device of the session, if there is one. -/
def device (station : Station) : Option Nat := station.session.map Session.number

/-- What a request does to the devices. -/
inductive Turn (before after : Station) : Request → Prop where
  | keeps {request : Request} (device : after.device = before.device)
      (created : after.bench.created = before.bench.created)
      (released : after.bench.released = before.bench.released)
      (absent : request = .shutDown → before.session = none) : Turn before after request
  | makes {settings : AcceleratorSettings} {observed : Bool} (absent : before.session = none)
      (answer : (before.bringUp settings observed).answer = .ok ())
      (device : after.device = some before.bench.created)
      (created : after.bench.created = before.bench.created + 1)
      (released : after.bench.released = before.bench.released) :
      Turn before after (.bringUp settings observed)
  | discards {settings : AcceleratorSettings} {observed : Bool} {error : AcceleratorError}
      (absent : before.session = none)
      (answer : (before.bringUp settings observed).answer = .error error)
      (device : after.device = none)
      (created : after.bench.created = before.bench.created + 1)
      (released : after.bench.released = before.bench.created :: before.bench.released) :
      Turn before after (.bringUp settings observed)
  | givesBack {n : Nat} (present : before.device = some n) (device : after.device = none)
      (created : after.bench.created = before.bench.created)
      (released : after.bench.released = n :: before.bench.released) : Turn before after .shutDown

variable {station : Station} {settings : AcceleratorSettings} {observed : Bool}

theorem created_bringUp (absent : station.session = none) :
    (station.bringUp settings observed).state.bench.created =
      station.bench.created + if station.bench.script.makesDevice then 1 else 0 := by
  rw [(bringUp_of_none absent).2]
  exact (Session.acquire_acquires station.bench settings observed).created

theorem released_bringUp (absent : station.session = none) :
    (station.bringUp settings observed).state.bench.released =
      if station.bench.script.makesDevice && station.bench.script.pipelineError.isSome then
        station.bench.created :: station.bench.released
      else station.bench.released := by
  rw [(bringUp_of_none absent).2]
  exact (Session.acquire_acquires station.bench settings observed).released

theorem device_bringUp (absent : station.session = none) :
    (station.bringUp settings observed).state.device =
      if station.bench.script.bringUpError.isSome then none else some station.bench.created := by
  rw [device, session_bringUp absent]
  cases station.bench.script.bringUpError <;> rfl

theorem turn_bringUp (absent : station.session = none) :
    Turn station (station.bringUp settings observed).state (.bringUp settings observed) := by
  have answer : (station.bringUp settings observed).answer = _ := answer_bringUp absent
  have device : (station.bringUp settings observed).state.device = _ := device_bringUp absent
  have created : (station.bringUp settings observed).state.bench.created = _ :=
    created_bringUp absent
  have released : (station.bringUp settings observed).state.bench.released = _ :=
    released_bringUp absent
  have course := Session.bringingUp_bringUpCalls station.bench.script settings observed
  generalize Session.bringUpCalls _ _ _ = calls at course
  generalize station.bench.script.bringUpError = outcome at answer device course
  have none : station.device = none := by
    rw [Station.device, absent]
    rfl
  cases course with
  | noAdapter missing =>
    have makes : station.bench.script.makesDevice = false := by simp [Script.makesDevice, missing]
    rw [makes] at created released
    exact .keeps (device.trans none.symm) created released fun _ => absent
  | noDevice _ missing =>
    have makes : station.bench.script.makesDevice = false := by simp [Script.makesDevice, missing]
    rw [makes] at created released
    exact .keeps (device.trans none.symm) created released fun _ => absent
  | kernelRefused makes refused =>
    rw [makes, refused] at released
    rw [makes] at created
    exact .discards absent answer device created released
  | broughtUp makes accepted =>
    rw [makes, accepted] at released
    rw [makes] at created
    exact .makes absent answer device created released

theorem turn_dispatch (station : Station) (settings : AcceleratorSettings) (e : Expression) :
    Turn station (station.dispatch settings e).state (.dispatch settings e) := by
  cases present : station.session with
  | none =>
    rw [dispatch_of_none present]
    exact .keeps rfl rfl rfl Request.noConfusion
  | some session =>
    have account := Session.evaluate_keeps_account settings.readbackTimeout e station.bench.created
      station.bench.released { bench := station.bench, device := session.device } ⟨rfl, rfl⟩
    rw [dispatch_of_session present]
    refine .keeps ?_ account.1 account.2 Request.noConfusion
    rw [device, device, present]
    rfl

theorem turn_serve (station : Station) (request : Request) :
    Turn station (station.serve request) request := by
  cases request with
  | setScript script => exact .keeps rfl rfl rfl Request.noConfusion
  | bringUp settings observed =>
    rw [serve]
    cases present : station.session with
    | none => exact turn_bringUp present
    | some session =>
      rw [bringUp_of_session present]
      exact .keeps rfl rfl rfl Request.noConfusion
  | dispatch settings e => exact turn_dispatch station settings e
  | shutDown =>
    rw [serve]
    cases present : station.session with
    | none =>
      rw [shutDown_of_none present]
      exact .keeps rfl rfl rfl fun _ => present
    | some session =>
      have device : station.device = some session.number := by
        rw [Station.device, present]
        rfl
      rw [shutDown_of_session present]
      exact .givesBack device rfl rfl rfl

/-! ### The account -/

/-- The books are in order: no device is given back twice, or before it was made, and the only one
in between is that of the session. -/
structure Accounted (station : Station) : Prop where
  once : station.bench.released.Nodup
  made : ∀ n ∈ station.bench.released, n < station.bench.created
  alive : station.bench.alive = station.device.toList

section Alive

variable {before after : Bench}

theorem mem_alive {n : Nat} : n ∈ before.alive ↔ n < before.created ∧ n ∉ before.released := by
  simp [Bench.alive]

theorem alive_of_made (made : ∀ n ∈ before.released, n < before.created)
    (created : after.created = before.created + 1) (released : after.released = before.released) :
    after.alive = before.alive ++ [before.created] := by
  have new : before.created ∉ before.released := fun member => Nat.lt_irrefl _ (made _ member)
  rw [Bench.alive, created, released, List.range_succ, List.filter_append]
  simp [Bench.alive, new]

theorem alive_of_discarded (created : after.created = before.created + 1)
    (released : after.released = before.created :: before.released) : after.alive = before.alive := by
  rw [Bench.alive, created, released, List.range_succ, List.filter_append]
  have last : [before.created].filter (fun n => n ∉ before.created :: before.released) = [] := by
    simp
  rw [last, List.append_nil]
  apply List.filter_congr
  intro n member
  have different : n ≠ before.created := Nat.ne_of_lt (List.mem_range.mp member)
  simp [different]

theorem alive_of_givenBack {n : Nat} (created : after.created = before.created)
    (released : after.released = n :: before.released) :
    after.alive = before.alive.filter (· ≠ n) := by
  rw [Bench.alive, Bench.alive, created, released, List.filter_filter]
  apply List.filter_congr
  intro m _
  simp

end Alive

/-- The device of the session was made and is not given back. -/
theorem Accounted.inUse {n : Nat} (accounted : station.Accounted)
    (present : station.device = some n) :
    n < station.bench.created ∧ n ∉ station.bench.released := by
  rw [← mem_alive, accounted.alive, present]
  exact List.mem_singleton_self n

theorem accounted_turn {before after : Station} {request : Request} (accounted : before.Accounted)
    (turn : Turn before after request) : after.Accounted := by
  obtain ⟨once, made, alive⟩ := accounted
  -- a device is only made while none is alive
  have none (absent : before.session = none) : before.bench.alive = [] := by
    rw [alive, device, absent]
    rfl
  cases turn with
  | keeps device created released _ =>
    constructor
    · rw [released]
      exact once
    · rw [released, created]
      exact made
    · rw [device, ← alive, Bench.alive, Bench.alive, created, released]
  | makes absent _ device created released =>
    constructor
    · rw [released]
      exact once
    · intro n member
      rw [released] at member
      rw [created]
      exact Nat.lt_succ_of_lt (made n member)
    · rw [alive_of_made made created released, none absent, device]
      rfl
  | discards absent _ device created released =>
    constructor
    · rw [released, List.nodup_cons]
      exact ⟨fun member => Nat.lt_irrefl _ (made _ member), once⟩
    · intro n member
      rw [released, List.mem_cons] at member
      rw [created]
      rcases member with rfl | member
      · exact Nat.lt_succ_self _
      · exact Nat.lt_succ_of_lt (made n member)
    · rw [alive_of_discarded created released, none absent, device]
      rfl
  | @givesBack n present device created released =>
    have inUse := Accounted.inUse ⟨once, made, alive⟩ present
    rw [present] at alive
    constructor
    · rw [released, List.nodup_cons]
      exact ⟨inUse.2, once⟩
    · intro m member
      rw [released, List.mem_cons] at member
      rw [created]
      rcases member with rfl | member
      · exact inUse.1
      · exact made m member
    · rw [alive_of_givenBack created released, alive, device]
      simp

theorem accounted_after (requests : List Request) : (after requests).Accounted := by
  apply after_induction
  · exact ⟨List.nodup_nil, by simp, rfl⟩
  · intro station request accounted
    exact accounted_turn accounted (turn_serve station request)

end Station

end DualEval
