import DualEval.Accelerator.Emulated
import DualEval.Evaluator.Operation
import DualEval.Proofs.StationCalls

/-!
# The device behaves like the emulation

An evaluator cannot tell two accelerators apart if their states are related so that every operation
gives the same answer in related states and leaves related states behind.  Without a script the
device and the emulation are related in this way: both have a session or none, and beyond that
nothing that earlier work has left on the device can be seen.
-/

namespace DualEval

open Device

variable {σ τ : Type}

/-! ### Simulation -/

/-- The replies have the same answer and leave related states. -/
structure Reply.Matches {α : Type} (R : σ → τ → Prop) (x : Reply σ α) (y : Reply τ α) : Prop where
  answer : x.answer = y.answer
  state : R x.state y.state

/-- In related states both accelerators reply alike. -/
structure Accelerator.Simulates (A : Accelerator σ) (B : Accelerator τ) (R : σ → τ → Prop) :
    Prop where
  lifecycle : ∀ {s t}, R s t → A.lifecycle s = B.lifecycle t
  adapterName : ∀ {s t}, R s t → A.adapterName s = B.adapterName t
  bringUp : ∀ {s t} settings observed, R s t →
    (A.bringUp settings observed s).Matches R (B.bringUp settings observed t)
  shutDown : ∀ {s t}, R s t → (A.shutDown s).Matches R (B.shutDown t)
  dispatch : ∀ {s t} settings e, R s t →
    (A.dispatch settings e s).Matches R (B.dispatch settings e t)

namespace Evaluator

/-- What is done with an evaluator: one is built in the place of the one before, whose session is
given up, or it is asked. -/
inductive Act where
  | start (settings : EvaluatorSettings)
  | hostOnly (settings : EvaluatorSettings)
  | ask (operation : Operation)

/-- One act: the answer, if a question was asked, and the evaluator after it. -/
def act (accelerator : Accelerator σ) (evaluator : Evaluator σ) :
    Act → Option Answer × Evaluator σ
  | .start settings =>
    let state := (accelerator.shutDown evaluator.state).state
    (none, (Evaluator.start accelerator settings state).state)
  | .hostOnly settings =>
    let state := (accelerator.shutDown evaluator.state).state
    (none, Evaluator.hostOnly settings state)
  | .ask operation =>
    let reply := evaluator.step accelerator operation
    (some reply.answer, reply.state)

/-- The answers in a sequence of acts. -/
def answers (accelerator : Accelerator σ) : List Act → Evaluator σ → List Answer
  | [], _ => []
  | next :: acts, evaluator =>
    (evaluator.act accelerator next).1.toList ++
      answers accelerator acts (evaluator.act accelerator next).2

/-- Evaluators with the same settings over related states. -/
structure Related (R : σ → τ → Prop) (x : Evaluator σ) (y : Evaluator τ) : Prop where
  settings : x.settings = y.settings
  state : R x.state y.state

variable {A : Accelerator σ} {B : Accelerator τ} {R : σ → τ → Prop} {x : Evaluator σ}
  {y : Evaluator τ}

theorem answer_evaluate (e : Expression) (x : Evaluator σ) :
    (evaluate A e x).answer = {
      expression := e
      reference := e.value
      status := classify x.settings.parityTolerance e.value
        (A.dispatch x.settings.accelerator e x.state).answer } := rfl

theorem state_evaluate (e : Expression) (x : Evaluator σ) :
    (evaluate A e x).state =
      { x with state := (A.dispatch x.settings.accelerator e x.state).state } := rfl

theorem evaluateText_of_error {text : String} {error : ParseError}
    (refused : Expression.parse text = .error error) (A : Accelerator σ) (x : Evaluator σ) :
    evaluateText A text x = ⟨.error error, x, []⟩ := by
  rw [evaluateText, refused]

theorem evaluateText_of_ok {text : String} {e : Expression} (parsed : Expression.parse text = .ok e)
    (A : Accelerator σ) (x : Evaluator σ) :
    evaluateText A text x = { evaluate A e x with answer := .ok (evaluate A e x).answer } := by
  rw [evaluateText, parsed]

theorem start_related (simulates : A.Simulates B R) {s : σ} {t : τ} (related : R s t)
    (settings : EvaluatorSettings) :
    Related R (start A settings s).state (start B settings t).state :=
  ⟨rfl, (simulates.bringUp settings.accelerator false related).state⟩

theorem evaluate_matches (simulates : A.Simulates B R) (related : Related R x y) (e : Expression) :
    (evaluate A e x).Matches (Related R) (evaluate B e y) := by
  obtain ⟨settings, state⟩ := related
  have dispatched := simulates.dispatch y.settings.accelerator e state
  constructor
  · rw [answer_evaluate, answer_evaluate, settings, dispatched.answer]
  · rw [state_evaluate, state_evaluate, settings]
    exact ⟨rfl, dispatched.state⟩

theorem evaluateText_matches (simulates : A.Simulates B R) (related : Related R x y)
    (text : String) : (evaluateText A text x).Matches (Related R) (evaluateText B text y) := by
  unfold evaluateText
  cases Expression.parse text with
  | error error => exact ⟨rfl, related⟩
  | ok e =>
    have evaluated := evaluate_matches simulates related e
    exact ⟨congrArg Except.ok evaluated.answer, evaluated.state⟩

theorem adopt_matches {α : Type} (settings : x.settings = y.settings) (wrap : α → Answer)
    {first : Reply σ α} {second : Reply τ α} (replies : first.Matches R second) :
    (x.adopt wrap first).Matches (Related R) (y.adopt wrap second) :=
  ⟨congrArg wrap replies.answer, settings, replies.state⟩

/-- Related evaluators answer a question alike and stay related. -/
theorem step_matches (simulates : A.Simulates B R) (related : Related R x y)
    (operation : Operation) :
    (x.step A operation).Matches (Related R) (y.step B operation) := by
  have settings := related.settings
  cases operation with
  | lifecycle => exact ⟨congrArg Answer.lifecycle (simulates.lifecycle related.state), related⟩
  | adapterName =>
    exact ⟨congrArg Answer.adapterName (simulates.adapterName related.state), related⟩
  | bringUp =>
    apply adopt_matches settings
    rw [settings]
    exact simulates.bringUp _ true related.state
  | shutDown => exact adopt_matches settings (fun _ => .shutDown) (simulates.shutDown related.state)
  | evaluate e =>
    have evaluated := evaluate_matches simulates related e
    exact ⟨congrArg (Answer.evaluation ∘ Except.ok) evaluated.answer, evaluated.state⟩
  | evaluateText text =>
    have evaluated := evaluateText_matches simulates related text
    exact ⟨congrArg Answer.evaluation evaluated.answer, evaluated.state⟩
  | dispatch e =>
    apply adopt_matches settings
    rw [settings]
    exact simulates.dispatch _ e related.state

theorem act_related (simulates : A.Simulates B R) (related : Related R x y) (next : Act) :
    (x.act A next).1 = (y.act B next).1 ∧ Related R (x.act A next).2 (y.act B next).2 := by
  have given := (simulates.shutDown related.state).state
  cases next with
  | start settings => exact ⟨rfl, start_related simulates given settings⟩
  | hostOnly settings => exact ⟨rfl, rfl, given⟩
  | ask operation =>
    have replies := step_matches simulates related operation
    exact ⟨congrArg some replies.answer, replies.state⟩

/-- **Simulation carries over to runs**: related evaluators give the same answers. -/
theorem answers_eq_of_related (simulates : A.Simulates B R) (related : Related R x y)
    (acts : List Act) : answers A acts x = answers B acts y := by
  -- each act leaves another related pair, so the evaluators vary along the induction
  induction acts generalizing x y with
  | nil => rfl
  | cons next acts ih =>
    obtain ⟨answer, after⟩ := act_related simulates related next
    unfold answers
    rw [answer, ih after]

end Evaluator

/-! ### What an evaluation leaves of the script -/

namespace Session

/-- No script is in force after an evaluation if none was before. -/
theorem evaluate_keeps_unscripted (timeout : Duration) (e : Expression) :
    (evaluate timeout e).Keeps fun rig => rig.bench.script = {} := by
  apply Stable.evaluate
  · constructor
    · intro submission timeout rig unscripted
      change { rig.bench.script with polls := rig.bench.script.polls.tail } = _
      rw [unscripted]
      rfl
    · intro buffer rig unscripted
      change { rig.bench.script with maps := rig.bench.script.maps.tail } = _
      rw [unscripted]
      rfl
    · exact fun _ _ unscripted => unscripted
    · exact fun _ _ unscripted => unscripted
  · intro rig unscripted
    exact (script_launch e rig).trans unscripted

theorem script_furnished (bench : Bench) (settings : AcceleratorSettings) (observed : Bool) :
    (furnished bench settings observed).script = bench.script := by
  unfold furnished
  rw [furnish_apply]
  rfl

theorem acquire_unscripted {bench : Bench} (unscripted : bench.script = {})
    (settings : AcceleratorSettings) (observed : Bool) :
    acquire bench settings observed =
      (.ok { adapter := "emulated", number := bench.created, device := {} },
        furnished bench settings observed) := by
  rw [acquire_eq, unscripted]

end Session

/-! ### The device and the emulation -/

theorem Fault.distort_none (output : Output) : ({} : Fault).distort output = output := rfl

theorem Fault.answer_none (e : Expression) :
    ({} : Fault).answer e = .ok (Kernel.run (Record.ofExpression e)) := by
  change Except.ok (({} : Fault).distort _) = _
  rw [Fault.distort_none]

theorem emulated_dispatch (settings : AcceleratorSettings) (e : Expression) (fault : Fault) :
    emulatedAccelerator.dispatch settings e { ready := true, fault } =
      ⟨fault.answer e, { ready := true, fault }, []⟩ := rfl

namespace Station

/-- The station stands where the emulation stands, and no script is in force. -/
inductive Mirrors (station : Station) : Emulation → Prop where
  | down (unscripted : station.bench.script = {}) (absent : station.session = none) :
      Mirrors station {}
  | up {session : Session} (unscripted : station.bench.script = {})
      (present : station.session = some session) (named : session.adapter = "emulated")
      (fresh : session.device.Fresh) :
      Mirrors station { ready := true }

variable {station : Station} {emulation : Emulation}

theorem mirrors_lifecycle (mirrors : station.Mirrors emulation) :
    deviceAccelerator.lifecycle station = emulatedAccelerator.lifecycle emulation := by
  cases mirrors with
  | down unscripted absent =>
    simp [deviceAccelerator, SessionState.seen, emulatedAccelerator, absent]
  | up unscripted present named fresh =>
    simp [deviceAccelerator, SessionState.seen, emulatedAccelerator, present]

theorem mirrors_adapterName (mirrors : station.Mirrors emulation) :
    deviceAccelerator.adapterName station = emulatedAccelerator.adapterName emulation := by
  cases mirrors with
  | down unscripted absent => simp [deviceAccelerator, emulatedAccelerator, absent]
  | up unscripted present named fresh =>
    simp [deviceAccelerator, emulatedAccelerator, present, named]

theorem mirrors_bringUp (mirrors : station.Mirrors emulation) (settings : AcceleratorSettings)
    (observed : Bool) :
    (station.bringUp settings observed).Matches Mirrors
      (emulatedAccelerator.bringUp settings observed emulation) := by
  cases mirrors with
  | down unscripted absent =>
    have kept := Session.script_furnished station.bench settings observed
    rw [bringUp, absent]
    simp only [Session.acquire_unscripted unscripted]
    exact ⟨rfl, .up (kept.trans unscripted) rfl rfl (rests_new _ _).fresh⟩
  | up unscripted present named fresh =>
    rw [bringUp_of_session present]
    exact ⟨rfl, .up unscripted present named fresh⟩

theorem mirrors_shutDown (mirrors : station.Mirrors emulation) :
    station.shutDown.Matches Mirrors (emulatedAccelerator.shutDown emulation) := by
  cases mirrors with
  | down unscripted absent =>
    rw [shutDown_of_none absent]
    exact ⟨rfl, .down unscripted absent⟩
  | up unscripted present named fresh =>
    rw [shutDown_of_session present]
    exact ⟨rfl, .down unscripted rfl⟩

theorem mirrors_dispatch (mirrors : station.Mirrors emulation) (settings : AcceleratorSettings)
    (e : Expression) :
    (station.dispatch settings e).Matches Mirrors
      (emulatedAccelerator.dispatch settings e emulation) := by
  cases mirrors with
  | down unscripted absent =>
    rw [dispatch_of_none absent]
    exact ⟨rfl, .down unscripted absent⟩
  | @up session unscripted present named fresh =>
    -- signals drawn from here on are new, so callbacks that still wait on the device do not matter
    constructor
    · have passed : ({} : Script).checks.findSome? id = none := rfl
      have written : ({} : Script).written e = Kernel.run (Record.ofExpression e) := rfl
      rw [answer_of_fresh present fresh, unscripted, verdict_of_none passed, written,
        emulated_dispatch, Fault.answer_none]
      rfl
    · rw [dispatch_of_session present]
      exact .up (Session.evaluate_keeps_unscripted _ e _ unscripted) rfl named
        (Session.evaluate_keeps_fresh _ e _ fresh)

/-- **The device simulates the emulation** while no script is in force. -/
theorem simulates_emulation : deviceAccelerator.Simulates emulatedAccelerator Mirrors where
  lifecycle := mirrors_lifecycle
  adapterName := mirrors_adapterName
  bringUp := fun settings observed mirrors => mirrors_bringUp mirrors settings observed
  shutDown := mirrors_shutDown
  dispatch := fun settings e mirrors => mirrors_dispatch mirrors settings e

/-- **An evaluator cannot tell the device from the emulation.** With no script in force and no fault,
the two answer every sequence of acts alike, whatever was recorded on the bench before. -/
theorem device_answers_as_emulation (bench : Bench) (settings : EvaluatorSettings)
    (acts : List Evaluator.Act) :
    Evaluator.answers deviceAccelerator acts
        (.hostOnly settings { bench := { bench with script := {} } }) =
      Evaluator.answers emulatedAccelerator acts (.hostOnly settings {}) := by
  have related : Evaluator.Related Mirrors
      (.hostOnly settings { bench := { bench with script := {} } }) (.hostOnly settings {}) :=
    ⟨rfl, .down rfl rfl⟩
  exact Evaluator.answers_eq_of_related simulates_emulation related acts

end Station

end DualEval
