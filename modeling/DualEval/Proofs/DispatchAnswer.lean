import DualEval.Proofs.KernelAgreement
import DualEval.Proofs.StationCalls

/-!
# The answer of a dispatch

What a dispatch answers is stated without the session that comes to it: a list of eight errors, each
with the condition under which its step fails, and the first that applies is the answer; if none
does, it is what the host expects for the expression, with the places overwritten that the script
names.  Signals are drawn in ascending order on every device, so after any run those still to be
drawn are not in use, and nothing that happened before can reach the answer.
-/

namespace DualEval

open Device

/-! ### The errors of a dispatch -/

namespace Device

/-- The error of a wait, given what is said of its signal when that is lost, how its poll turned out
and what has become of its callback by then. -/
def waitError (stage : Stage) (lost : String) (timeout : Duration) :
    PollOutcome → Fate → Option AcceleratorError
  | .timeout, _ => some (.readbackTimeout stage timeout)
  | .wrongIndex asked last, _ => some (.dispatch
      ("Tried to wait using a submission index (" ++ toString asked ++
        ") that has not been returned by a successful submission (last successful submission: " ++
        toString last ++ ")"))
  | _, .pending => some (.readbackTimeout stage timeout)
  | _, .discarded => some (.dispatch lost)
  | _, .fired => none

namespace Script

/-- The errors of a dispatch in the order of its steps: the submission and its wait, the two
mappings, each waited for and then granted or not, and the lengths of the two ranges. -/
def errors (script : Script) (timeout : Duration) : List (Option AcceleratorError) :=
  let submitted := Fate.pending.after (script.pollOutcome 0)
  -- both mappings are requested before the first of them is waited for
  let mapped := Fate.pending.after (script.pollOutcome 1)
  [script.submitError.map .dispatch,
    waitError .submission "submission completion signal dropped before firing" timeout
      (script.pollOutcome 0) submitted,
    waitError (.mapping "result") "mapping of result signal dropped before firing" timeout
      (script.pollOutcome 1) mapped,
    if script.grants 0 then none
    else some (.bufferMap "result" "Error occurred when trying to async map a buffer"),
    waitError (.mapping "diagnostics") "mapping of diagnostics signal dropped before firing" timeout
      (script.pollOutcome 2) (mapped.after (script.pollOutcome 2)),
    if script.grants 1 then none
    else some (.bufferMap "diagnostics" "Error occurred when trying to async map a buffer"),
    if script.rangeLength .result = 4 then none
    else some (.bufferMap "result"
      ("expected 4 bytes, mapped " ++ toString (script.rangeLength .result))),
    if script.rangeLength .diagnostics = 64 then none
    else some (.bufferMap "diagnostics"
      ("expected 64 bytes, mapped " ++ toString (script.rangeLength .diagnostics)))]

/-- What a dispatch answers: the first of its errors, or else the output that the host expects with
the places overwritten that the script names. -/
def answer (script : Script) (timeout : Duration) (e : Expression) :
    Except AcceleratorError Output :=
  match (script.errors timeout).findSome? id with
  | some error => .error error
  | none => .ok (script.pokes.foldl Output.poke ⟨e.value, Diagnostics.expected e⟩)

end Script

variable {timeout : Duration}

theorem map_toError_waitFailure (stage : Stage) (outcome : PollOutcome) (fate : Fate) :
    (waitFailure stage outcome fate).map (·.toError timeout) =
      waitError stage (stage.text ++ " signal dropped before firing") timeout outcome fate := by
  cases outcome <;> cases fate <;> rfl

theorem map_toError_refusal (buffer : Staging) (granted : Bool) :
    (refusal buffer granted).map (·.toError timeout) = if granted then none
      else some (.bufferMap buffer.name "Error occurred when trying to async map a buffer") := by
  cases granted <;> rfl

theorem map_toError_lengthFailure (script : Script) (buffer : Staging) :
    (script.lengthFailure buffer).map (·.toError timeout) =
      if script.rangeLength buffer = buffer.datumCount * 4 then none
      else some (.bufferMap buffer.name ("expected " ++ toString (buffer.datumCount * 4) ++
        " bytes, mapped " ++ toString (script.rangeLength buffer))) := by
  rw [Script.lengthFailure]
  split <;> rfl

/-- The errors are what the checks of an evaluation are reported as. -/
theorem Script.map_toError_checks (script : Script) (timeout : Duration) :
    script.checks.map (Option.map (·.toError timeout)) = script.errors timeout := by
  have rejected : (script.submitError.map Breakdown.rejected).map (·.toError timeout) =
      script.submitError.map AcceleratorError.dispatch := by
    cases script.submitError <;> rfl
  simp only [checks, readbackChecks, List.map_cons, List.map_nil, rejected, map_toError_waitFailure,
    map_toError_refusal, map_toError_lengthFailure]
  rfl

theorem Script.written_eq (script : Script) (e : Expression) :
    script.written e = script.pokes.foldl Output.poke ⟨e.value, Diagnostics.expected e⟩ := by
  rw [written, Kernel.run_ofExpression]

/-- What comes of the checks is reported as the answer. -/
theorem Script.mapError_verdict (script : Script) (timeout : Duration) (e : Expression) :
    (verdict script.checks (script.written e)).mapError (·.toError timeout) =
      script.answer timeout e := by
  have first : (script.errors timeout).findSome? id =
      (script.checks.findSome? id).map (·.toError timeout) := by
    rw [← map_toError_checks, List.findSome?_map, List.map_findSome?]
    rfl
  rw [answer, first, verdict, written_eq]
  cases script.checks.findSome? id <;> rfl

end Device

namespace Station

/-- A dispatch in a session at rest gives the answer of the script in force. -/
theorem answer_of_rests {station : Station} {session : Session}
    (present : station.session = some session) (rests : session.Rests)
    (settings : AcceleratorSettings) (e : Expression) :
    (station.dispatch settings e).answer =
      station.bench.script.answer (Duration.ofMilliseconds (max 1 settings.readbackTimeoutMs)) e := by
  rw [answer_of_fresh present rests.fresh, Script.mapError_verdict, AcceleratorSettings.readbackTimeout,
    Nat.max_comm]

/-- **The answer of a dispatch depends on its expression, its timeout and its script alone.** After
any run of requests and with any script newly put in force, a dispatch in a session answers the first
error of the script that applies, and if none does, what is expected for the expression with the
places overwritten that the script names. -/
theorem dispatch_answer (requests : List Request) (script : Script)
    (settings : AcceleratorSettings) (e : Expression) :
    (((after requests).withScript script).dispatch settings e).answer =
      match (after requests).session with
      | none => .error .notInitialized
      | some _ => script.answer (Duration.ofMilliseconds (max 1 settings.readbackTimeoutMs)) e := by
  have rests := rests_after requests
  generalize after requests = station at rests ⊢
  cases present : station.session with
  | none => rw [dispatch, withScript, present]
  | some session =>
    have held : (station.withScript script).session = some session := present
    exact answer_of_rests held (rests session present) settings e

/-- A dispatch that polls in vain for its result runs out of time there. -/
example (e : Expression) :
    let station := (after [.bringUp {} false]).withScript { polls := [.ok, .silent] }
    (station.dispatch {} e).answer =
      .error (.readbackTimeout (.mapping "result") (Duration.ofMilliseconds 5000)) := rfl

end Station

end DualEval
