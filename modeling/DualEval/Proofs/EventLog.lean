import DualEval.Harness.Account
import DualEval.Proofs.AcceleratorInfluence

/-!
# The log of a run

An evaluator is built over a scripted device, and then questions are asked and scripts put in force in
any order.  What one question can come to is said once, with the events that it reports and the state of
the session before and after it (`DualEval.Evaluator.Logged`).  Over a run, the events of sessions take
turns and tell the state of the session, and the warnings count what was not verified although there was
a session, and an evaluator that had to fall back (`DualEval.Evaluator.log_of_moves`).
-/

namespace DualEval

open Device

/-- The events of one level, in their order. -/
def Event.ofLevel (level : Level) (events : List Event) : List Event :=
  events.filter fun event => event.level = level

theorem Event.ofLevel_append (level : Level) (events later : List Event) :
    ofLevel level (events ++ later) = ofLevel level events ++ ofLevel level later :=
  List.filter_append _ _

/-- Whether the accelerator failed for another reason than a missing session. -/
def Evaluation.isFailedDispatch (e : Evaluation) : Bool :=
  match e.status with
  | .failed error => error ≠ .notInitialized
  | .verified _ | .diverged _ => false

/-- The evaluation that a question came to, if it did. -/
def Answer.result? : Answer → Option Evaluation
  | .evaluation (.ok result) => some result
  | _ => none

namespace Evaluator

/-! ### Runs -/

/-- How an evaluator is built. -/
inductive Construction where
  | start
  | hostOnly
deriving DecidableEq

/-- Build an evaluator over a bench without a session. -/
def Construction.build (construction : Construction) (settings : EvaluatorSettings)
    (bench : Bench) : Reply (Evaluator Station) Unit :=
  match construction with
  | .start => Evaluator.start deviceAccelerator settings { bench }
  | .hostOnly => ⟨(), Evaluator.hostOnly settings { bench }, []⟩

/-- Why the session that an evaluator is to start with did not come up. -/
def Construction.failure? (construction : Construction) (settings : EvaluatorSettings)
    (bench : Bench) : Option AcceleratorError :=
  match construction with
  | .start =>
    match (deviceAccelerator.bringUp settings.accelerator false { bench }).answer with
    | .ok () => none
    | .error error => some error
  | .hostOnly => none

/-- What is done with an evaluator once it is built. -/
inductive Move where
  | setScript (script : Script)
  | ask (operation : Operation)

/-- A question with what came of it, between two states of the session. -/
structure Exchange where
  before : SessionState
  operation : Operation
  answer : Answer
  events : List Event
  after : SessionState

def exchange (x : Evaluator Station) (operation : Operation) : Exchange where
  before := x.lifecycle deviceAccelerator
  operation := operation
  answer := (x.step deviceAccelerator operation).answer
  events := (x.step deviceAccelerator operation).events
  after := (x.step deviceAccelerator operation).state.lifecycle deviceAccelerator

/-- The evaluator after a move. -/
def move (x : Evaluator Station) : Move → Evaluator Station
  | .setScript script => { x with state := x.state.withScript script }
  | .ask operation => (x.step deviceAccelerator operation).state

/-- The questions of a run with what came of them. -/
def exchanges : List Move → Evaluator Station → List Exchange
  | [], _ => []
  | .setScript script :: moves, x => exchanges moves (x.move (.setScript script))
  | .ask operation :: moves, x => x.exchange operation :: exchanges moves (x.move (.ask operation))

/-! ### One question -/

/-- The event of a session that takes on an expression, if there is a session. -/
def takenOn (before : SessionState) (e : Expression) : List Event :=
  if before = .ready then [.dispatching e] else []

/-- The events of an evaluation that came to a result. -/
def evaluationEvents (before : SessionState) (result : Evaluation) : List Event :=
  takenOn before result.expression ++ warnings result.expression result.reference result.status

/-- What one question can come to: the answer, the events reported and the session's state after it. -/
inductive Logged (before : SessionState) : Operation → Answer → List Event → SessionState → Prop where
  | lifecycle (state : SessionState) : Logged before .lifecycle (.lifecycle state) [] before
  | adapterName (name : Option String) : Logged before .adapterName (.adapterName name) [] before
  | alreadyUp (up : before = .ready) : Logged before .bringUp (.bringUp (.ok ())) [] before
  | broughtUp (down : before = .uninitialized) (adapter : String) :
      Logged before .bringUp (.bringUp (.ok ())) [.sessionReady adapter] .ready
  | stayedDown (down : before = .uninitialized) (error : AcceleratorError) :
      Logged before .bringUp (.bringUp (.error error)) [] before
  | shutDown (up : before = .ready) :
      Logged before .shutDown .shutDown [.sessionShutDown] .uninitialized
  | alreadyDown (down : before = .uninitialized) : Logged before .shutDown .shutDown [] before
  | evaluated (result : Evaluation) :
      Logged before (.evaluate result.expression) (.evaluation (.ok result))
        (evaluationEvents before result) before
  | evaluatedText {text : String} (result : Evaluation)
      (read : Expression.parse text = .ok result.expression) :
      Logged before (.evaluateText text) (.evaluation (.ok result)) (evaluationEvents before result)
        before
  | refusedText {text : String} {error : ParseError}
      (refused : Expression.parse text = .error error) :
      Logged before (.evaluateText text) (.evaluation (.error error)) [] before
  | dispatched (e : Expression) (outcome : Except AcceleratorError Output) :
      Logged before (.dispatch e) (.dispatch outcome) (takenOn before e) before

theorem ready_of_session {station : Station} {session : Session}
    (present : station.session = some session) : deviceAccelerator.lifecycle station = .ready :=
  (Station.lifecycle_eq_ready_iff station).mpr (by simp [present])

theorem uninitialized_of_none {station : Station} (absent : station.session = none) :
    deviceAccelerator.lifecycle station = .uninitialized :=
  (Station.lifecycle_eq_uninitialized_iff station).mpr absent

/-- A dispatch reports that it was taken on and keeps the session. -/
theorem dispatch_logged (settings : AcceleratorSettings) (e : Expression) (station : Station) :
    (station.dispatch settings e).events = takenOn (deviceAccelerator.lifecycle station) e ∧
      deviceAccelerator.lifecycle (station.dispatch settings e).state =
        deviceAccelerator.lifecycle station := by
  refine ⟨?_, (Station.dispatch_keeps_devices station settings e).2.2⟩
  cases present : station.session with
  | none =>
    rw [Station.dispatch_of_none present, uninitialized_of_none present]
    rfl
  | some session =>
    rw [ready_of_session present, Station.dispatch, present]
    rfl

theorem bringUp_logged (settings : AcceleratorSettings) (observed : Bool) (station : Station) :
    Logged (deviceAccelerator.lifecycle station) .bringUp
      (.bringUp (station.bringUp settings observed).answer) (station.bringUp settings observed).events
      (deviceAccelerator.lifecycle (station.bringUp settings observed).state) := by
  cases present : station.session with
  | some session =>
    rw [Station.bringUp_of_session present]
    exact .alreadyUp (ready_of_session present)
  | none =>
    have down := uninitialized_of_none present
    rw [Station.bringUp, present]
    rcases Session.acquire station.bench settings observed with ⟨error | session, bench⟩
    · have kept : deviceAccelerator.lifecycle { bench, session := none } =
          deviceAccelerator.lifecycle station := down.symm
      simp only [kept]
      exact .stayedDown down error
    · exact .broughtUp down session.adapter

theorem shutDown_logged (station : Station) :
    Logged (deviceAccelerator.lifecycle station) .shutDown .shutDown station.shutDown.events
      (deviceAccelerator.lifecycle station.shutDown.state) := by
  cases present : station.session with
  | some session =>
    rw [Station.shutDown_of_session present]
    exact .shutDown (ready_of_session present)
  | none =>
    rw [Station.shutDown_of_none present]
    exact .alreadyDown (uninitialized_of_none present)

/-- An evaluation adds its warnings to what the dispatch reports, and keeps the session. -/
theorem evaluate_logged (x : Evaluator Station) (e : Expression) :
    (evaluate deviceAccelerator e x).events =
        evaluationEvents (x.lifecycle deviceAccelerator) (evaluate deviceAccelerator e x).answer ∧
      (evaluate deviceAccelerator e x).state.lifecycle deviceAccelerator =
        x.lifecycle deviceAccelerator := by
  obtain ⟨taken, kept⟩ := dispatch_logged x.settings.accelerator e x.state
  refine ⟨?_, kept⟩
  rw [events_evaluate]
  exact congrArg (· ++ _) taken

/-- **Every question comes to one of these.** -/
theorem step_logged (x : Evaluator Station) (operation : Operation) :
    Logged (x.exchange operation).before operation (x.exchange operation).answer
      (x.exchange operation).events (x.exchange operation).after := by
  cases operation with
  | lifecycle => exact .lifecycle _
  | adapterName => exact .adapterName _
  | bringUp => exact bringUp_logged x.settings.accelerator true x.state
  | shutDown => exact shutDown_logged x.state
  | evaluate e =>
    obtain ⟨events, kept⟩ := evaluate_logged x e
    simp only [exchange, step]
    rw [events, kept]
    exact .evaluated (evaluate deviceAccelerator e x).answer
  | evaluateText text =>
    simp only [exchange, step]
    cases read : Expression.parse text with
    | error error =>
      rw [evaluateText_of_error read]
      exact .refusedText read
    | ok e =>
      obtain ⟨events, kept⟩ := evaluate_logged x e
      rw [evaluateText_of_ok read]
      simp only [events]
      rw [kept]
      exact .evaluatedText (evaluate deviceAccelerator e x).answer read
  | dispatch e =>
    obtain ⟨taken, kept⟩ := dispatch_logged x.settings.accelerator e x.state
    change Logged (x.lifecycle deviceAccelerator) (.dispatch e) (.dispatch _)
      (x.state.dispatch x.settings.accelerator e).events
      (deviceAccelerator.lifecycle (x.state.dispatch x.settings.accelerator e).state)
    rw [taken, kept]
    exact .dispatched e _

/-! ### Warnings -/

section Warnings

variable {before after : SessionState} {operation : Operation} {answer : Answer} {events : List Event}

theorem level_warnings (e : Expression) (reference : Binary32) (status : Status) :
    ∀ event ∈ warnings e reference status, event.level = .warn := by
  intro event reported
  unfold warnings at reported
  split at reported <;> simp_all [Event.level]

theorem length_warnings (result : Evaluation) :
    (warnings result.expression result.reference result.status).length =
      if Harness.isDiverged result || result.isFailedDispatch then 1 else 0 := by
  obtain ⟨expression, reference, status⟩ := result
  cases status with
  | verified output => rfl
  | diverged output => rfl
  | failed error => cases error <;> rfl

theorem ofLevel_takenOn (before : SessionState) (e : Expression) {level : Level}
    (other : level ≠ .debug) : Event.ofLevel level (takenOn before e) = [] := by
  unfold takenOn
  split
  · simp [Event.ofLevel, Event.level, other.symm]
  · rfl

/-- Beside its warnings an evaluation reports that it was taken on, if it was. -/
theorem ofLevel_evaluationEvents (before : SessionState) (result : Evaluation) :
    Event.ofLevel .warn (evaluationEvents before result) =
        warnings result.expression result.reference result.status ∧
      Event.ofLevel .info (evaluationEvents before result) = [] := by
  have warned := level_warnings result.expression result.reference result.status
  rw [evaluationEvents, Event.ofLevel_append, Event.ofLevel_append, ofLevel_takenOn _ _ (by decide),
    ofLevel_takenOn _ _ (by decide), List.nil_append, List.nil_append]
  constructor
  · exact List.filter_eq_self.mpr fun event reported => decide_eq_true (warned event reported)
  · refine List.filter_eq_nil_iff.mpr fun event reported => ?_
    simp [warned event reported]

/-- A question is worth one warning if it came to an evaluation that needs one, and none otherwise. -/
theorem Logged.warnings_length (logged : Logged before operation answer events after) :
    (Event.ofLevel .warn events).length =
      answer.result?.toList.countP Harness.isDiverged +
        answer.result?.toList.countP Evaluation.isFailedDispatch := by
  have counted (result : Evaluation) :
      (Event.ofLevel .warn (evaluationEvents before result)).length =
        [result].countP Harness.isDiverged + [result].countP Evaluation.isFailedDispatch := by
    rw [(ofLevel_evaluationEvents before result).1, length_warnings]
    obtain ⟨expression, reference, status⟩ := result
    cases status <;> simp [Harness.isDiverged, Evaluation.isFailedDispatch, List.countP_singleton]
  cases logged with
  | evaluated result => exact counted result
  | evaluatedText result read => exact counted result
  | dispatched e outcome =>
    rw [ofLevel_takenOn before e (by decide)]
    rfl
  | _ => rfl

end Warnings

/-! ### Events of sessions -/

/-- Sessions come up and are given up in turns; the state is the one after the last event. -/
inductive Turns : List Event → SessionState → Prop where
  | new : Turns [] .uninitialized
  | ready {events : List Event} (down : Turns events .uninitialized) (adapter : String) :
      Turns (events ++ [.sessionReady adapter]) .ready
  | shutDown {events : List Event} (up : Turns events .ready) :
      Turns (events ++ [.sessionShutDown]) .uninitialized

namespace Turns

variable {events more : List Event} {state : SessionState}

theorem append_silent (turns : Turns events state) (silent : Event.ofLevel .info more = []) :
    Turns (events ++ Event.ofLevel .info more) state := by
  rw [silent, List.append_nil]
  exact turns

theorem ready_iff (turns : Turns events state) :
    state = .ready ↔ ∃ adapter, events.getLast? = some (.sessionReady adapter) := by
  cases turns with
  | new => simp
  | ready down adapter => simp
  | shutDown up => simp

theorem length_odd_iff (turns : Turns events state) : events.length % 2 = 1 ↔ state = .ready := by
  induction turns with
  | new => simp
  | ready down adapter ih =>
    simp only [List.length_append, List.length_singleton, reduceCtorEq, iff_false, iff_true] at ih ⊢
    omega
  | shutDown up ih =>
    simp only [List.length_append, List.length_singleton, reduceCtorEq, iff_false, iff_true] at ih ⊢
    omega

theorem getElem?_concat {last event : Event} {place : Nat}
    (found : (events ++ [last])[place]? = some event) :
    events[place]? = some event ∨ place = events.length ∧ event = last := by
  rw [List.getElem?_append] at found
  split at found
  · exact .inl found
  · rw [List.getElem?_singleton] at found
    split at found
    · exact .inr ⟨by omega, (Option.some.inj found).symm⟩
    · contradiction

/-- At even places a session comes up, at odd places it is given up. -/
theorem alternate (turns : Turns events state) {place : Nat} {event : Event}
    (found : events[place]? = some event) :
    if place % 2 = 0 then ∃ adapter, event = .sessionReady adapter else event = .sessionShutDown := by
  induction turns with
  | new => contradiction
  | ready down adapter ih =>
    rcases getElem?_concat found with earlier | ⟨rfl, rfl⟩
    · exact ih earlier
    · have even := down.length_odd_iff
      rw [if_pos (by simpa using even)]
      exact ⟨adapter, rfl⟩
  | shutDown up ih =>
    rcases getElem?_concat found with earlier | ⟨rfl, rfl⟩
    · exact ih earlier
    · have odd := up.length_odd_iff
      rw [if_neg (by simpa using odd)]

end Turns

/-- A question adds to the events of sessions in their turn. -/
theorem Logged.turns {before after : SessionState} {operation : Operation} {answer : Answer}
    {events earlier : List Event} (logged : Logged before operation answer events after)
    (turns : Turns earlier before) : Turns (earlier ++ Event.ofLevel .info events) after := by
  cases logged with
  | broughtUp down adapter => exact .ready (down ▸ turns) adapter
  | shutDown up => exact .shutDown (up ▸ turns)
  | evaluated result => exact turns.append_silent (ofLevel_evaluationEvents before result).2
  | evaluatedText result read => exact turns.append_silent (ofLevel_evaluationEvents before result).2
  | dispatched e outcome => exact turns.append_silent (ofLevel_takenOn before e (by decide))
  | _ => exact turns.append_silent rfl

/-! ### Whole runs -/

variable {moves : List Move} {x : Evaluator Station}

theorem logged_of_mem {seen : Exchange} (member : seen ∈ exchanges moves x) :
    Logged seen.before seen.operation seen.answer seen.events seen.after := by
  induction moves generalizing x with
  | nil => contradiction
  | cons next moves ih =>
    cases next with
    | setScript script => exact ih member
    | ask operation =>
      rcases List.mem_cons.mp member with rfl | later
      · exact step_logged x operation
      · exact ih later

/-- The log of the questions. -/
def log (moves : List Move) (x : Evaluator Station) : List Event :=
  (exchanges moves x).flatMap Exchange.events

/-- The evaluations that questions came to. -/
def results (moves : List Move) (x : Evaluator Station) : List Evaluation :=
  (exchanges moves x).flatMap fun seen => seen.answer.result?.toList

/-- The events of sessions go on in turns, up to the state after the last move. -/
theorem turns_log (moves : List Move) {earlier : List Event}
    (turns : Turns earlier (x.lifecycle deviceAccelerator)) :
    Turns (earlier ++ Event.ofLevel .info (log moves x))
      ((moves.foldl move x).lifecycle deviceAccelerator) := by
  -- what was logged before is part of the statement, so it varies with the evaluator
  induction moves generalizing x earlier with
  | nil =>
    rw [log, exchanges, List.flatMap_nil, Event.ofLevel, List.filter_nil, List.append_nil]
    exact turns
  | cons next moves ih =>
    cases next with
    | setScript script => exact ih turns
    | ask operation =>
      have further := ih ((step_logged x operation).turns turns)
      rw [List.append_assoc, ← Event.ofLevel_append] at further
      exact further

theorem length_warnings_log (moves : List Move) (x : Evaluator Station) :
    (Event.ofLevel .warn (log moves x)).length =
      (results moves x).countP Harness.isDiverged +
        (results moves x).countP Evaluation.isFailedDispatch := by
  unfold log results
  have logged : ∀ seen ∈ exchanges moves x,
      Logged seen.before seen.operation seen.answer seen.events seen.after := fun _ => logged_of_mem
  generalize exchanges moves x = course at logged
  induction course with
  | nil => rfl
  | cons seen course ih =>
    obtain ⟨first, others⟩ := List.forall_mem_cons.mp logged
    rw [List.flatMap_cons, List.flatMap_cons, Event.ofLevel_append, List.length_append,
      List.countP_append, List.countP_append, first.warnings_length, ih others]
    omega

/-- Building an evaluator reports one warning if its session did not come up, and otherwise none; it
begins the turns of sessions. -/
theorem build_logged (construction : Construction) (settings : EvaluatorSettings) (bench : Bench) :
    let built := construction.build settings bench
    Event.ofLevel .warn built.events =
        (construction.failure? settings bench).toList.map Event.fellBack ∧
      Turns (Event.ofLevel .info built.events) (built.state.lifecycle deviceAccelerator) := by
  cases construction with
  | hostOnly => exact ⟨rfl, .new⟩
  | start =>
    have logged := bringUp_logged settings.accelerator false { bench }
    have unwarned := List.length_eq_zero_iff.mp logged.warnings_length
    have turns := logged.turns .new
    have own : deviceAccelerator.bringUp = Station.bringUp := rfl
    simp only [Construction.build, Construction.failure?, start, own, Event.ofLevel_append, unwarned]
    cases (Station.bringUp settings.accelerator false { bench }).answer with
    | ok done => exact ⟨rfl, turns.append_silent rfl⟩
    | error error => exact ⟨rfl, turns.append_silent rfl⟩

/-- An evaluation of a text is told by what it reports. -/
theorem Logged.ofText {before after : SessionState} {answer : Answer} {events : List Event}
    {text : String} (logged : Logged before (.evaluateText text) answer events after) :
    (∀ error, Expression.parse text = .error error →
      answer = .evaluation (.error error) ∧ events = []) ∧
    ∀ e, Expression.parse text = .ok e → ∃ result warnings,
      answer = .evaluation (.ok result) ∧ result.expression = e ∧
      events = (if before = .ready then [.dispatching e] else []) ++ warnings ∧
      (∀ event ∈ warnings, event.level = .warn) ∧
      warnings.length = if Harness.isDiverged result || result.isFailedDispatch then 1 else 0 := by
  cases logged with
  | evaluatedText result read =>
    rw [read]
    constructor
    · intro error refused
      contradiction
    · rintro e ⟨⟩
      exact ⟨result, _, rfl, rfl, rfl, level_warnings _ _ _, length_warnings result⟩
  | refusedText refused =>
    rw [refused]
    constructor
    · rintro error ⟨⟩
      exact ⟨rfl, rfl⟩
    · intro e read
      contradiction

/-- **The log of a run**, under any scripts.  A text that is not read reports nothing; one that is read
reports that it was taken on, if there is a session, and then one warning, if it diverged or failed for
another reason than a missing session.  Building an evaluator warns if its session did not come up.
Sessions come up and are given up in turns, and there is one after the run exactly if the last event of
a session says so.  So the warnings are as many as the divergences, those failures and the failed start. -/
theorem log_of_moves (construction : Construction) (settings : EvaluatorSettings) (bench : Bench)
    (moves : List Move) :
    let built := construction.build settings bench
    let report := built.events ++ log moves built.state
    let sessions := Event.ofLevel .info report
    (∀ seen ∈ exchanges moves built.state, ∀ text, seen.operation = .evaluateText text →
      (∀ error, Expression.parse text = .error error →
        seen.answer = .evaluation (.error error) ∧ seen.events = []) ∧
      ∀ e, Expression.parse text = .ok e → ∃ result warnings,
        seen.answer = .evaluation (.ok result) ∧ result.expression = e ∧
        seen.events = (if seen.before = .ready then [.dispatching e] else []) ++ warnings ∧
        (∀ event ∈ warnings, event.level = .warn) ∧
        warnings.length = if Harness.isDiverged result || result.isFailedDispatch then 1 else 0) ∧
    Event.ofLevel .warn built.events =
      (construction.failure? settings bench).toList.map Event.fellBack ∧
    (∀ place event, sessions[place]? = some event →
      if place % 2 = 0 then ∃ adapter, event = .sessionReady adapter else event = .sessionShutDown) ∧
    ((moves.foldl move built.state).lifecycle deviceAccelerator = .ready ↔
      ∃ adapter, sessions.getLast? = some (.sessionReady adapter)) ∧
    (Event.ofLevel .warn report).length =
      (results moves built.state).countP Harness.isDiverged +
        (results moves built.state).countP Evaluation.isFailedDispatch +
        (construction.failure? settings bench).toList.length := by
  intro built report sessions
  obtain ⟨warned, begun⟩ := build_logged construction settings bench
  have turns : Turns sessions ((moves.foldl move built.state).lifecycle deviceAccelerator) := by
    have onward := turns_log moves begun
    rwa [← Event.ofLevel_append] at onward
  refine ⟨?_, warned, fun _ _ => turns.alternate, turns.ready_iff, ?_⟩
  · intro seen member text asked
    have logged := logged_of_mem member
    rw [asked] at logged
    exact logged.ofText
  · rw [Event.ofLevel_append, List.length_append, warned, List.length_map, length_warnings_log]
    exact Nat.add_comm _ _

/-- An evaluator falls back, comes by a session after all, and is given a wrong sum. -/
example :
    let faulty : Script := { adapterError := some "no adapter" }
    let poked : Script := { pokes := [(Kernel.resultBinding.number, 0, Binary32.one)] }
    let built := Construction.start.build {} { script := faulty }
    let moves : List Move := [
      .ask (.evaluateText "(+ 1 2)"), .setScript poked, .ask .bringUp,
      .ask (.evaluateText "(+ 1 2)"), .ask .shutDown]
    (built.events ++ log moves built.state).map Event.level = [.warn, .info, .debug, .warn, .info] := by
  decide +kernel

end Evaluator

end DualEval
