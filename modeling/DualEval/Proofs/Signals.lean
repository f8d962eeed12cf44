import DualEval.Proofs.Commands

/-!
# Callbacks and their signals

A callback waits until a poll fires or discards it, and no callback is added under a signal that was
drawn before.  So what is seen of a signal follows from its own callback and from the polls since that
was registered, whatever callbacks and deliveries earlier work has left behind.
-/

namespace DualEval.Device

/-- What has become of a callback. -/
inductive Fate where
  | pending
  | fired
  | discarded
deriving DecidableEq

namespace Fate

/-- What becomes of a callback through a poll: one that waits fires on a success and is gone when the
poll discards; nothing else changes. -/
def after : Fate → PollOutcome → Fate
  | pending, .ok => fired
  | pending, .drop => discarded
  | fate, _ => fate

/-- What is seen of the signal of a callback, given what the callback tells when it fires. -/
def seen (report : Bool) : Fate → Signal
  | pending => .awaited
  | fired => .arrived report
  | discarded => .lost

end Fate

/-- The part of a device that signals are seen from. -/
def signals (d : Device) : Nat × List Callback × List (Nat × Bool) :=
  (d.nextSignal, d.callbacks, d.deliveries)

/-- Signals and error scopes: what the commands of a submission leave alone. -/
def control (d : Device) : (Nat × List Callback × List (Nat × Bool)) × List (Option String) :=
  (d.signals, d.scopes)

/-- Every signal in use was drawn before, so a signal still to be drawn is not in use. -/
structure Fresh (d : Device) : Prop where
  callbacks : ∀ callback ∈ d.callbacks, callback.signal < d.nextSignal
  deliveries : ∀ delivery ∈ d.deliveries, delivery.1 < d.nextSignal

/-- A callback was registered, no other has its signal, and this has become of it. -/
structure Tracks (d : Device) (callback : Callback) (fate : Fate) : Prop where
  drawn : callback.signal < d.nextSignal
  alone : ∀ other ∈ d.callbacks, other.signal = callback.signal → other = callback
  waiting : callback ∈ d.callbacks ↔ fate = .pending
  delivered : d.deliveries.lookup callback.signal =
    if fate = .fired then some callback.report else none

variable {d d' : Device} {callback : Callback} {fate : Fate}

theorem Fresh.congr (fresh : d.Fresh) (same : d'.signals = d.signals) : d'.Fresh := by
  simp only [signals, Prod.mk.injEq] at same
  obtain ⟨next, callbacks, deliveries⟩ := same
  constructor
  · rw [next, callbacks]
    exact fresh.callbacks
  · rw [next, deliveries]
    exact fresh.deliveries

theorem Tracks.congr (tracks : d.Tracks callback fate) (same : d'.signals = d.signals) :
    d'.Tracks callback fate := by
  simp only [signals, Prod.mk.injEq] at same
  obtain ⟨next, callbacks, deliveries⟩ := same
  constructor
  · rw [next]
    exact tracks.drawn
  · rw [callbacks]
    exact tracks.alone
  · rw [callbacks]
    exact tracks.waiting
  · rw [deliveries]
    exact tracks.delivered

/-! ### What leaves the signals alone -/

theorem signals_updateStaged (d : Device) (buffer : Staging) (change : Staged → Staged) :
    (d.updateStaged buffer change).signals = d.signals := by
  cases buffer <;> rfl

theorem signals_raise (d : Device) (error : Option String) :
    (d.raise error).signals = d.signals := by
  rw [raise]
  split <;> rfl

theorem signals_popScope (d : Device) : d.popScope.2.signals = d.signals := by
  rw [popScope]
  split <;> rfl

theorem control_commands (script : Script) (commands : List Command) (d : Device) :
    (commands.foldl (execute script) d).control = d.control := by
  have same := congrArg control (bare_commands script commands d)
  exact same

theorem signals_submit (d : Device) (script : Script) (commands : List Command) :
    (d.submit script commands).2.signals = d.signals := by
  rw [submit]
  split
  · exact signals_raise _ _
  · exact congrArg Prod.fst (control_commands script commands _)

/-! ### Registering -/

/-- A callback that is registered waits under a signal of its own. -/
theorem Fresh.tracks_register (fresh : d.Fresh) {callback : Nat → Callback}
    (named : ∀ n, (callback n).signal = n) :
    (d.register callback).2.Tracks (callback d.nextSignal) .pending where
  drawn := by
    rw [named]
    exact Nat.lt_succ_self _
  alone := by
    intro other member same
    rcases List.mem_cons.mp member with rfl | member
    · rfl
    · have earlier := fresh.callbacks other member
      rw [same, named] at earlier
      exact absurd earlier (Nat.lt_irrefl _)
  waiting := by simp [register]
  delivered := by
    change d.deliveries.lookup _ = none
    rw [List.lookup_eq_none_iff, named]
    intro delivery member
    have earlier := fresh.deliveries delivery member
    simp
    omega

/-- Another callback does not matter. -/
theorem Tracks.register (tracks : d.Tracks callback fate) {other : Nat → Callback}
    (named : ∀ n, (other n).signal = n) : (d.register other).2.Tracks callback fate where
  drawn := Nat.lt_succ_of_lt tracks.drawn
  alone := by
    intro third member same
    rcases List.mem_cons.mp member with rfl | member
    · have drawn := tracks.drawn
      rw [← same, named] at drawn
      exact absurd drawn (Nat.lt_irrefl _)
    · exact tracks.alone third member same
  waiting := by
    have different : callback ≠ other d.nextSignal := by
      rintro rfl
      have drawn := tracks.drawn
      rw [named] at drawn
      exact Nat.lt_irrefl _ drawn
    rw [← tracks.waiting]
    simp [Device.register, different]
  delivered := tracks.delivered

theorem Fresh.register (fresh : d.Fresh) {callback : Nat → Callback}
    (named : ∀ n, (callback n).signal = n) : (d.register callback).2.Fresh where
  callbacks := by
    intro other member
    rcases List.mem_cons.mp member with rfl | member
    · rw [named]
      exact Nat.lt_succ_self _
    · exact Nat.lt_succ_of_lt (fresh.callbacks other member)
  deliveries := fun delivery member => Nat.lt_succ_of_lt (fresh.deliveries delivery member)

/-! ### Mapping -/

theorem Fresh.mapAsync (fresh : d.Fresh) (buffer : Staging) (granted : Bool) :
    (d.mapAsync buffer granted).2.Fresh :=
  (fresh.register fun _ => rfl).congr (signals_updateStaged _ _ _)

theorem Fresh.tracks_mapAsync (fresh : d.Fresh) (buffer : Staging) (granted : Bool) :
    (d.mapAsync buffer granted).2.Tracks (.mapping buffer granted d.nextSignal) .pending :=
  (fresh.tracks_register fun _ => rfl).congr (signals_updateStaged _ _ _)

theorem Tracks.mapAsync (tracks : d.Tracks callback fate) (buffer : Staging) (granted : Bool) :
    (d.mapAsync buffer granted).2.Tracks callback fate :=
  (tracks.register fun _ => rfl).congr (signals_updateStaged _ _ _)

/-! ### Polling and unmapping -/

theorem lookup_reports {callbacks : List Callback}
    (alone : ∀ other ∈ callbacks, other.signal = callback.signal → other = callback) :
    (callbacks.map fun other => (other.signal, other.report)).lookup callback.signal =
      if callback ∈ callbacks then some callback.report else none := by
  induction callbacks with
  | nil => rfl
  | cons other callbacks ih =>
    have rest := ih fun third member => alone third (List.mem_cons_of_mem _ member)
    by_cases same : other = callback
    · subst same
      simp
    · have different : ¬ callback.signal = other.signal := fun equal =>
        same (alone other List.mem_cons_self equal.symm)
      rw [List.map_cons, List.lookup_cons, beq_eq_false_iff_ne.mpr different, rest]
      simp [Ne.symm same]

/-- **A poll decides the fate of a callback by its outcome alone.** -/
theorem Tracks.poll (tracks : d.Tracks callback fate) (outcome : PollOutcome) :
    (d.poll outcome).Tracks callback (fate.after outcome) := by
  obtain ⟨drawn, alone, waiting, delivered⟩ := tracks
  cases outcome with
  | ok =>
    refine ⟨drawn, by rintro _ ⟨⟩, ?_, ?_⟩
    · cases fate <;> simp [Device.poll, fireAll, Fate.after]
    · change (d.callbacks.map _ ++ d.deliveries).lookup _ = _
      rw [List.lookup_append, lookup_reports alone, delivered]
      simp only [waiting]
      cases fate <;> rfl
  | drop =>
    refine ⟨drawn, by rintro _ ⟨⟩, ?_, ?_⟩
    · cases fate <;> simp [Device.poll, discardAll, Fate.after]
    · change d.deliveries.lookup _ = _
      rw [delivered]
      cases fate <;> rfl
  | silent | timeout | wrongIndex _ _ =>
    cases fate <;> exact ⟨drawn, alone, waiting, delivered⟩

/-- What is seen of a signal is what has become of its callback. -/
theorem Tracks.inspect (tracks : d.Tracks callback fate) :
    d.inspect callback.signal = fate.seen callback.report := by
  have any : (d.callbacks.any fun other => other.signal = callback.signal) = true ↔
      fate = .pending := by
    rw [← tracks.waiting, List.any_eq_true]
    constructor
    · rintro ⟨other, member, same⟩
      exact tracks.alone other member (of_decide_eq_true same) ▸ member
    · intro member
      exact ⟨callback, member, by simp⟩
  rw [Device.inspect, tracks.delivered]
  simp only [any]
  cases fate <;> rfl

theorem Fresh.poll (fresh : d.Fresh) (outcome : PollOutcome) : (d.poll outcome).Fresh := by
  cases outcome with
  | ok =>
    refine ⟨by rintro _ ⟨⟩, fun delivery member => ?_⟩
    rcases List.mem_append.mp member with member | member
    · obtain ⟨callback, waiting, rfl⟩ := List.mem_map.mp member
      exact fresh.callbacks callback waiting
    · exact fresh.deliveries delivery member
  | drop => exact ⟨by rintro _ ⟨⟩, fresh.deliveries⟩
  | silent | timeout | wrongIndex _ _ => exact fresh

theorem Fresh.unmap (fresh : d.Fresh) (buffer : Staging) : (d.unmap buffer).Fresh := by
  have next : (d.unmap buffer).nextSignal = d.nextSignal := by cases buffer <;> rfl
  constructor
  · intro callback member
    have kept : callback ∈ d.callbacks := by
      simp only [Device.unmap, List.partition_eq_filter_filter, List.mem_filter] at member
      exact member.1
    rw [next]
    exact fresh.callbacks callback kept
  · intro delivery member
    rw [next]
    simp only [Device.unmap, List.partition_eq_filter_filter] at member
    rcases List.mem_append.mp member with member | member
    · obtain ⟨callback, ended, rfl⟩ := List.mem_map.mp member
      exact fresh.callbacks callback (List.mem_filter.mp ended).1
    · exact fresh.deliveries delivery member

end DualEval.Device
