import DualEval.Proofs.Actions
import DualEval.Proofs.Signals
import DualEval.Proofs.StagedOutput

/-!
# The checks of an evaluation

An evaluation passes a fixed list of checks, each decided by the script: the submission, its wait,
the two mappings with their waits, and the lengths of the two ranges.  What earlier work has left on
the device has no part in them, provided that signals still to be drawn are not in use.
-/

namespace DualEval

open Device

/-! ### The checks -/

namespace Device

/-- Why a wait fails, given how its poll turned out and what has become of its callback by then. -/
def waitFailure (stage : Stage) : PollOutcome → Fate → Option Breakdown
  | .timeout, _ => some (.wait stage .timedOut)
  | .wrongIndex asked last, _ => some (.wait stage (.wrongIndex asked last))
  | _, .pending => some (.wait stage .timedOut)
  | _, .discarded => some (.wait stage .lost)
  | _, .fired => none

/-- Why a mapping fails whose callback has fired. -/
def refusal (buffer : Staging) (granted : Bool) : Option Breakdown :=
  if granted then none else some (.mapRefused buffer)

namespace Script

/-- How the polls turn out, in their order. -/
def pollOutcome (script : Script) (n : Nat) : PollOutcome := script.polls.getD n .ok

/-- Whether the mappings are granted, in their order. -/
def grants (script : Script) (n : Nat) : Bool := script.maps.getD n true

/-- Why the mapped range of a staging buffer is not read. -/
def lengthFailure (script : Script) (buffer : Staging) : Option Breakdown :=
  if script.rangeLength buffer = buffer.datumCount * 4 then none
  else some (.wrongLength buffer (buffer.datumCount * 4) (script.rangeLength buffer))

/-- What the readback has to pass, given how its two polls turn out.  Both mappings wait from before
the first of them. -/
def readbackChecks (script : Script) (first second : PollOutcome) : List (Option Breakdown) :=
  [waitFailure (.mapping Staging.result.name) first (Fate.pending.after first),
    refusal .result (script.grants 0),
    waitFailure (.mapping Staging.diagnostics.name) second
      ((Fate.pending.after first).after second),
    refusal .diagnostics (script.grants 1),
    script.lengthFailure .result,
    script.lengthFailure .diagnostics]

/-- What a dispatch has to pass, in order. -/
def checks (script : Script) : List (Option Breakdown) :=
  script.submitError.map .rejected ::
    waitFailure .submission (script.pollOutcome 0) (Fate.pending.after (script.pollOutcome 0)) ::
      script.readbackChecks (script.pollOutcome 1) (script.pollOutcome 2)

theorem headD_polls (script : Script) : script.polls.headD .ok = script.pollOutcome 0 := by
  rw [pollOutcome]
  cases script.polls <;> rfl

theorem pollOutcome_tail (script : Script) (n : Nat) :
    { script with polls := script.polls.tail }.pollOutcome n = script.pollOutcome (n + 1) := by
  rw [pollOutcome, pollOutcome]
  cases script.polls <;> rfl

theorem headD_maps (script : Script) : script.maps.headD true = script.grants 0 := by
  rw [grants]
  cases script.maps <;> rfl

theorem grants_tail (script : Script) (n : Nat) :
    { script with maps := script.maps.tail }.grants n = script.grants (n + 1) := by
  rw [grants, grants]
  cases script.maps <;> rfl

end Script

end Device

namespace Session

variable {rig : Rig} {callback : Callback} {fate : Fate} {output : Output}

/-! ### Waiting -/

theorem poll_apply (submission : Option Nat) (timeout : Duration) (rig : Rig) :
    Action.poll submission timeout rig =
      (.ok (rig.bench.script.pollOutcome 0), (Action.poll submission timeout rig).2) := by
  rw [← Script.headD_polls]
  rfl

theorem poll_device (submission : Option Nat) (timeout : Duration) (rig : Rig) :
    (Action.poll submission timeout rig).2.device =
      rig.device.poll (rig.bench.script.pollOutcome 0) := by
  rw [← Script.headD_polls]
  rfl

/-- **A wait is decided by its poll and by the fate of its callback.** -/
theorem await_answer (tracks : rig.device.Tracks callback fate) (timeout : Duration)
    (stage : Stage) (submission : Option Nat) :
    (await timeout stage submission callback.signal rig).1 =
      verdict [waitFailure stage (rig.bench.script.pollOutcome 0)
        (fate.after (rig.bench.script.pollOutcome 0))] callback.report := by
  have seen := (tracks.poll (rig.bench.script.pollOutcome 0)).inspect
  rw [← poll_device submission timeout] at seen
  rw [await, Action.bind_apply_of_ok (poll_apply submission timeout rig)]
  generalize (Action.poll submission timeout rig).2 = after at seen ⊢
  have looked : Action.inspect callback.signal after =
      (.ok ((fate.after (rig.bench.script.pollOutcome 0)).seen callback.report), after) := by
    rw [Action.inspect, seen]
  generalize rig.bench.script.pollOutcome 0 = outcome at looked ⊢
  cases outcome with
  | timeout => rfl
  | wrongIndex asked last => rfl
  | ok | silent | drop =>
    refine (congrArg Prod.fst (Action.bind_apply_of_ok looked)).trans ?_
    cases fate <;> rfl

/-- Beyond its poll, a wait leaves the rig alone. -/
theorem await_rig (timeout : Duration) (stage : Stage) (submission : Option Nat) (signal : Nat)
    (rig : Rig) :
    (await timeout stage submission signal rig).2 = (Action.poll submission timeout rig).2 := by
  refine Action.bind_rig fun outcome after => ?_
  cases outcome with
  | timeout => rfl
  | wrongIndex asked last => rfl
  | ok | silent | drop =>
    refine Action.bind_rig fun signal after => ?_
    cases signal <;> rfl

theorem resolve_answer (tracks : rig.device.Tracks callback fate) (timeout : Duration)
    (buffer : Staging) :
    (resolve timeout buffer callback.signal rig).1 =
      verdict [waitFailure (.mapping buffer.name) (rig.bench.script.pollOutcome 0)
        (fate.after (rig.bench.script.pollOutcome 0)), refusal buffer callback.report] () := by
  refine Action.bind_verdict (await_answer tracks timeout _ none) fun _ => ?_
  cases callback.report <;> rfl

theorem resolve_rig (timeout : Duration) (buffer : Staging) (signal : Nat) (rig : Rig) :
    (resolve timeout buffer signal rig).2 = (Action.poll none timeout rig).2 := by
  refine (Action.bind_rig fun granted after => ?_).trans (await_rig timeout _ none signal rig)
  cases granted <;> rfl

/-! ### Reading -/

theorem readRange_answer (stages : rig.device.Stages output) (buffer : Staging) :
    (readRange buffer rig).1 =
      verdict [rig.bench.script.lengthFailure buffer] (output.data buffer) := by
  have mapped : Action.mappedRange buffer rig =
      (.ok (rig.device.mappedRange rig.bench.script buffer),
        (Action.mappedRange buffer rig).2) := rfl
  rw [readRange, Action.bind_apply_of_ok mapped, Script.lengthFailure]
  by_cases right : rig.bench.script.rangeLength buffer = buffer.datumCount * 4
  · rw [mappedRange_of_length stages right, Binary32.vectorOfBytes?_bytesOf, if_pos right]
    rfl
  · have length := length_mappedRange stages rig.bench.script buffer
    rw [Binary32.vectorOfBytes?, dif_neg (length.symm ▸ right), if_neg right, length]
    rfl

/-- Reading leaves its record and nothing else. -/
theorem readRange_rig (buffer : Staging) (rig : Rig) :
    (readRange buffer rig).2 = (Action.mappedRange buffer rig).2 := by
  refine Action.bind_rig fun bytes after => ?_
  cases Binary32.vectorOfBytes? buffer.datumCount bytes <;> rfl

/-- Both ranges, read one after the other. -/
def readRanges : Action Output := do
  let value ← readRange .result
  let slots ← readRange .diagnostics
  pure { value := getElem value 0 Nat.one_pos, diagnostics := ⟨slots⟩ }

/-- What remains of the readback once both mappings are requested, under these signals. -/
def readMapped (timeout : Duration) (result diagnostics : Nat) : Action Output := do
  resolve timeout .result result
  resolve timeout .diagnostics diagnostics
  readRanges

/-- The rig with both mappings requested. -/
def requested (rig : Rig) : Rig := (Action.mapAsync .diagnostics (Action.mapAsync .result rig).2).2

theorem collect_eq (timeout : Duration) (rig : Rig) :
    collect timeout rig =
      let (ending, after) := readMapped timeout rig.device.nextSignal (rig.device.nextSignal + 1)
        (requested rig)
      (ending, (giveBack .result ending (giveBack .diagnostics ending after).2).2) := rfl

/-! ### Launching -/

/-- The rig of a launch once the work is submitted. -/
def submitted (e : Expression) (rig : Rig) : Rig :=
  let uploaded := (Action.writeRecord (Record.ofExpression e).toBytes (Action.pushScope rig).2).2
  (Action.submit commands (encode uploaded).2).2

/-- The device with the record of an expression uploaded, within the scope of a launch. -/
def uploaded (e : Expression) (d : Device) : Device :=
  { d.pushScope with record := (Record.ofExpression e).toBytes }

theorem submitted_device (e : Expression) (rig : Rig) :
    (submitted e rig).device = ((uploaded e rig.device).submit rig.bench.script commands).2 := rfl

theorem signals_submitted (e : Expression) (rig : Rig) :
    (submitted e rig).device.signals = rig.device.signals := by
  rw [submitted_device, signals_submit]
  rfl

theorem nextSignal_submitted (e : Expression) (rig : Rig) :
    (submitted e rig).device.nextSignal = rig.device.nextSignal :=
  congrArg Prod.fst (signals_submitted e rig)

/-- The scope of a launch catches what the script has for submissions. -/
theorem scopes_submitted (e : Expression) (rig : Rig) :
    (submitted e rig).device.scopes = rig.bench.script.submitError :: rig.device.scopes := by
  rw [submitted_device, submit]
  cases rejected : rig.bench.script.submitError with
  | some error => rfl
  | none => exact congrArg Prod.snd (control_commands rig.bench.script commands _)

/-- What remains of a launch is to register for the end of the work and to close the scope. -/
theorem launch_eq (e : Expression) (rig : Rig) :
    launch e rig = (do
      match ← Action.popScope with
      | some error => Action.fail (.rejected error)
      | none => pure (rig.device.submissions + 1, (submitted e rig).device.nextSignal) :
        Action (Nat × Nat)) (Action.onWorkDone (submitted e rig)).2 := rfl

theorem popScope_apply {caught : Option String} {outer : List (Option String)}
    (scopes : rig.device.scopes = caught :: outer) :
    Action.popScope rig = (.ok caught, (Action.popScope rig).2) := by
  rw [Action.popScope, Device.popScope, scopes]

theorem launch_answer (e : Expression) (rig : Rig) :
    (launch e rig).1 = verdict [rig.bench.script.submitError.map .rejected]
      (rig.device.submissions + 1, rig.device.nextSignal) := by
  have scopes : (Action.onWorkDone (submitted e rig)).2.device.scopes =
      rig.bench.script.submitError :: rig.device.scopes := scopes_submitted e rig
  rw [launch_eq, nextSignal_submitted, Action.bind_apply_of_ok (popScope_apply scopes)]
  cases rig.bench.script.submitError <;> rfl

theorem launch_rig (e : Expression) (rig : Rig) :
    (launch e rig).2 = (Action.popScope (Action.onWorkDone (submitted e rig)).2).2 := by
  rw [launch_eq]
  refine Action.bind_rig fun caught after => ?_
  cases caught <;> rfl

theorem fresh_submitted (fresh : rig.device.Fresh) (e : Expression) :
    (submitted e rig).device.Fresh := fresh.congr (signals_submitted e rig)

theorem fresh_launch (fresh : rig.device.Fresh) (e : Expression) :
    (launch e rig).2.device.Fresh := by
  rw [launch_rig]
  exact ((fresh_submitted fresh e).register fun _ => rfl).congr (signals_popScope _)

/-- The callback for the end of the work waits after a launch. -/
theorem tracks_launch (fresh : rig.device.Fresh) (e : Expression) :
    (launch e rig).2.device.Tracks (.workDone rig.device.nextSignal) .pending := by
  rw [launch_rig, ← nextSignal_submitted e rig]
  exact ((fresh_submitted fresh e).tracks_register fun _ => rfl).congr (signals_popScope _)

/-- An accepted launch stages what is written for the expression. -/
theorem stages_launch (accepted : rig.bench.script.submitError = none) (e : Expression) :
    (launch e rig).2.device.Stages (rig.bench.script.written e) := by
  have staged : (submitted e rig).device.Stages (rig.bench.script.written e) :=
    stages_submit rfl accepted
  rw [launch_rig]
  have registered : (Action.onWorkDone (submitted e rig)).2.device.Stages
      (rig.bench.script.written e) := staged
  exact registered.popScope

theorem script_launch (e : Expression) (rig : Rig) :
    (launch e rig).2.bench.script = rig.bench.script := by
  rw [launch_rig]
  rfl

end Session

end DualEval
