import DualEval.Proofs.Actions
import DualEval.Proofs.Commands

/-!
# Calls and what they do to the staging buffers

What a staging buffer is doing follows from the calls that were made: a request starts a mapping, a
poll settles or loses what is pending, an unmap ends it, and no other call matters.  So what an
action leaves on record is the list of its calls, replayed from what the buffers were doing before
(`DualEval.Device.Rig.Makes`).  Actions that follow each other make their calls in order, up to the
first step that fails (`DualEval.Device.Action.bind_takes`).
-/

namespace DualEval.Device

/-- What a staging buffer of a device is doing. -/
def mapping (d : Device) (buffer : Staging) : Mapping := (d.staged buffer).mapping

def idle : Staging → Mapping := fun _ => .idle

/-- What becomes of a mapping through a poll. -/
def Mapping.after (m : Mapping) : PollOutcome → Mapping
  | .ok => m.settle
  | .drop => m.lose
  | .silent | .timeout | .wrongIndex _ _ => m

/-- What a staging buffer was doing when the call was made. -/
def Entry.mapping (entry : Entry) : Staging → Mapping
  | .result => entry.result
  | .diagnostics => entry.diagnostics

/-- The calls on record, in the order in which they were made. -/
def Bench.log (bench : Bench) : List Entry := bench.history.reverse

/-! ### Replaying -/

namespace Call

/-- What a call makes of what a staging buffer is doing. -/
def effect (call : Call) (buffer : Staging) (m : Mapping) : Mapping :=
  match call with
  | poll _ _ outcome => m.after outcome
  | mapAsync owner granted => if owner = buffer then .pending granted else m
  | unmap owner => if owner = buffer then .idle else m
  | _ => m

def act (doing : Staging → Mapping) (call : Call) : Staging → Mapping :=
  fun buffer => call.effect buffer (doing buffer)

/-- What the staging buffers are doing after a list of calls. -/
def replay (doing : Staging → Mapping) (calls : List Call) : Staging → Mapping :=
  calls.foldl act doing

/-- A list of calls as it is recorded, given what the staging buffers are doing before it. -/
def entries (doing : Staging → Mapping) : List Call → List Entry
  | [] => []
  | call :: calls =>
    { call, result := doing .result, diagnostics := doing .diagnostics } ::
      entries (act doing call) calls

variable {doing : Staging → Mapping}

theorem replay_append (doing : Staging → Mapping) (earlier later : List Call) :
    replay doing (earlier ++ later) = replay (replay doing earlier) later :=
  List.foldl_append

theorem entries_append (doing : Staging → Mapping) (earlier later : List Call) :
    entries doing (earlier ++ later) =
      entries doing earlier ++ entries (replay doing earlier) later := by
  induction earlier generalizing doing with
  | nil => rfl
  | cons call earlier ih =>
    rw [List.cons_append, entries, entries, ih]
    rfl

theorem map_call_entries (doing : Staging → Mapping) (calls : List Call) :
    (entries doing calls).map Entry.call = calls := by
  induction calls generalizing doing with
  | nil => rfl
  | cons call calls ih => rw [entries, List.map_cons, ih]

/-- Each call is recorded with what the buffers are doing after the calls before it. -/
theorem mapping_of_entries {calls : List Call} {earlier later : List Entry} {entry : Entry}
    (split : entries doing calls = earlier ++ entry :: later) :
    entry.mapping = replay doing (earlier.map Entry.call) := by
  induction earlier generalizing doing calls with
  | nil =>
    cases calls with
    | nil => cases split
    | cons call calls =>
      rw [entries, List.nil_append, List.cons.injEq] at split
      obtain ⟨rfl, _⟩ := split
      funext buffer
      cases buffer <;> rfl
  | cons first earlier ih =>
    cases calls with
    | nil => cases split
    | cons call calls =>
      rw [entries, List.cons_append, List.cons.injEq] at split
      obtain ⟨rfl, rest⟩ := split
      exact ih rest

/-- The calls obey a rule about what the staging buffers may be doing when a call is made. -/
def Obey (rule : (Staging → Mapping) → Call → Prop) (doing : Staging → Mapping) : List Call → Prop
  | [] => True
  | call :: calls => rule doing call ∧ Obey rule (act doing call) calls

variable {rule : (Staging → Mapping) → Call → Prop}

theorem obey_append (doing : Staging → Mapping) (earlier later : List Call) :
    Obey rule doing (earlier ++ later) ↔
      Obey rule doing earlier ∧ Obey rule (replay doing earlier) later := by
  induction earlier generalizing doing with
  | nil => exact (iff_of_eq (true_and _)).symm
  | cons call earlier ih =>
    change _ ∧ Obey rule (act doing call) (earlier ++ later) ↔ (_ ∧ _) ∧ _
    rw [ih, and_assoc]
    rfl

theorem obey_iff_entries (doing : Staging → Mapping) (calls : List Call) :
    Obey rule doing calls ↔ ∀ entry ∈ entries doing calls, rule entry.mapping entry.call := by
  induction calls generalizing doing with
  | nil => exact iff_of_true trivial fun _ member => absurd member List.not_mem_nil
  | cons call calls ih =>
    have recorded : Entry.mapping
        { call, result := doing .result, diagnostics := doing .diagnostics } = doing := by
      funext buffer
      cases buffer <;> rfl
    rw [Obey, ih, entries, List.forall_mem_cons, recorded]

/-- The call leaves the staging buffers alone. -/
def Still (call : Call) : Prop := ∀ buffer m, call.effect buffer m = m

theorem Still.act {call : Call} (still : call.Still) (doing : Staging → Mapping) :
    act doing call = doing := by
  funext buffer
  exact still buffer (doing buffer)

theorem replay_of_still {calls : List Call} (still : ∀ call ∈ calls, call.Still)
    (doing : Staging → Mapping) : replay doing calls = doing := by
  induction calls with
  | nil => rfl
  | cons call calls ih =>
    change replay (Call.act doing call) calls = doing
    rw [(still call List.mem_cons_self).act]
    exact ih fun other member => still other (List.mem_cons_of_mem call member)

end Call

/-! ### What single operations do to the staging buffers -/

theorem mapping_new : ({} : Device).mapping = idle := by
  funext buffer
  cases buffer <;> rfl

theorem mapping_raise (d : Device) (error : Option String) : (d.raise error).mapping = d.mapping := by
  funext buffer
  rw [raise]
  split <;> cases buffer <;> rfl

theorem mapping_popScope (d : Device) : d.popScope.2.mapping = d.mapping := by
  funext buffer
  rw [popScope]
  split <;> cases buffer <;> rfl

theorem mapping_poll (d : Device) (outcome : PollOutcome) (buffer : Staging) :
    (d.poll outcome).mapping buffer = (d.mapping buffer).after outcome := by
  cases outcome <;> cases buffer <;> rfl

theorem mapping_mapAsync (d : Device) (owner buffer : Staging) (granted : Bool) :
    (d.mapAsync owner granted).2.mapping buffer =
      if owner = buffer then .pending granted else d.mapping buffer := by
  cases owner <;> cases buffer <;> rfl

theorem mapping_unmap (d : Device) (owner buffer : Staging) :
    (d.unmap owner).mapping buffer = if owner = buffer then .idle else d.mapping buffer := by
  cases owner <;> cases buffer <;> rfl

theorem mapping_bare (d : Device) : d.bare.mapping = d.mapping := by
  funext buffer
  cases buffer <;> rfl

theorem mapping_commands (script : Script) (commands : List Command) (d : Device) :
    (commands.foldl (execute script) d).mapping = d.mapping := by
  rw [← mapping_bare, bare_commands, mapping_bare]

theorem mapping_submit (d : Device) (script : Script) (commands : List Command) :
    (d.submit script commands).2.mapping = d.mapping := by
  rw [submit]
  split
  · exact mapping_raise _ _
  · exact mapping_commands script commands _

/-! ### The calls of an action -/

/-- These calls lead from one rig to another: they are what is added to the record, and what the
staging buffers are doing follows from them. -/
structure Rig.Makes (before : Rig) (calls : List Call) (after : Rig) : Prop where
  log : after.bench.log = before.bench.log ++ Call.entries before.device.mapping calls
  mapping : after.device.mapping = Call.replay before.device.mapping calls

namespace Rig

variable {before between after : Rig} {earlier later : List Call}

theorem Makes.refl (rig : Rig) : rig.Makes [] rig := ⟨(List.append_nil _).symm, rfl⟩

theorem Makes.trans (first : before.Makes earlier between) (next : between.Makes later after) :
    before.Makes (earlier ++ later) after := by
  constructor
  · rw [next.log, first.log, first.mapping, Call.entries_append, List.append_assoc]
  · rw [next.mapping, first.mapping, Call.replay_append]

theorem makes_call {call : Call}
    (recorded : after.bench.history = (before.record call).bench.history)
    (acts : ∀ buffer,
      after.device.mapping buffer = call.effect buffer (before.device.mapping buffer)) :
    before.Makes [call] after := by
  constructor
  · rw [Bench.log, recorded]
    exact List.reverse_cons
  · funext buffer
    exact acts buffer

end Rig

/-- A step of an action: the calls it makes, and why it fails, if it does. -/
structure Step where
  calls : List Call
  failure : Option Breakdown := none

namespace Step

/-- The calls of a list of steps, up to the first step that fails. -/
def performed : List Step → List Call
  | [] => []
  | step :: steps => step.calls ++ if step.failure.isSome then [] else performed steps

def checks (steps : List Step) : List (Option Breakdown) := steps.map Step.failure

theorem checks_append (earlier later : List Step) :
    checks (earlier ++ later) = checks earlier ++ checks later := List.map_append

theorem performed_singleton (step : Step) : performed [step] = step.calls := by
  rw [performed, performed, ite_self, List.append_nil]

theorem performed_check (step : Step) (failure : Option Breakdown) :
    performed [step, { calls := [], failure }] = step.calls := by
  rw [performed, performed_singleton, ite_self, List.append_nil]

/-- The steps behind one that fails are not performed. -/
theorem performed_append (earlier later : List Step) :
    performed (earlier ++ later) =
      performed earlier ++
        if ((checks earlier).findSome? id).isSome then [] else performed later := by
  induction earlier with
  | nil => rfl
  | cons step earlier ih =>
    have passed : (checks (step :: earlier)).findSome? id =
        step.failure.or ((checks earlier).findSome? id) := by
      rw [checks, checks, List.map_cons, List.findSome?_cons]
      cases step.failure <;> rfl
    rw [List.cons_append, performed, performed, ih, passed]
    cases step.failure with
    | some breakdown => simp
    | none => simp

end Step

namespace Action

variable {α β : Type} {first : Action α} {next : α → Action β} {rig : Rig}

/-- The action takes these steps on a rig: it makes their calls up to the first one that fails, and
answers if there is none. -/
structure Takes (action : Action α) (rig : Rig) (steps : List Step) (a : α) : Prop where
  answer : (action rig).1 = verdict (Step.checks steps) a
  calls : rig.Makes (Step.performed steps) (action rig).2

/-- One thing done after another takes the steps of both. -/
theorem bind_takes {earlier later : List Step} {a : α} {b : β}
    (begins : first.Takes rig earlier a)
    (continues : (Step.checks earlier).findSome? id = none → (next a).Takes (first rig).2 later b) :
    (first >>= next).Takes rig (earlier ++ later) b := by
  constructor
  · rw [Step.checks_append]
    exact bind_verdict begins.answer fun passed => (continues passed).answer
  · obtain ⟨answer, calls⟩ := begins
    obtain ⟨ending, after, run⟩ : ∃ ending after, first rig = (ending, after) := ⟨_, _, rfl⟩
    rw [run] at answer calls continues
    rw [Step.performed_append]
    cases failed : (Step.checks earlier).findSome? id with
    | some breakdown =>
      rw [verdict_of_some failed] at answer
      obtain rfl : ending = .error breakdown := answer
      rw [bind_apply_of_error run, Option.isSome_some, if_pos rfl, List.append_nil]
      exact calls
    | none =>
      rw [verdict_of_none failed] at answer
      obtain rfl : ending = .ok a := answer
      rw [bind_apply_of_ok run, Option.isSome_none, if_neg Bool.false_ne_true]
      exact calls.trans (continues failed).calls

theorem pushScope_makes (rig : Rig) : rig.Makes [.pushErrorScope] (pushScope rig).2 :=
  Rig.makes_call rfl fun buffer => by cases buffer <;> rfl

theorem popScope_makes (rig : Rig) :
    rig.Makes [.popErrorScope rig.device.popScope.1] (popScope rig).2 :=
  Rig.makes_call rfl fun buffer => congrFun (mapping_popScope rig.device) buffer

theorem writeRecord_makes (bytes : List UInt8) (rig : Rig) :
    rig.Makes [.writeBuffer .record 0 bytes] (writeRecord bytes rig).2 :=
  Rig.makes_call rfl fun buffer => by cases buffer <;> rfl

theorem submit_makes (commands : List Command) (rig : Rig) :
    rig.Makes [.submit 1 .dispatching] (submit commands rig).2 :=
  Rig.makes_call rfl fun buffer =>
    congrFun (mapping_submit rig.device rig.bench.script commands) buffer

theorem onWorkDone_makes (rig : Rig) : rig.Makes [.onSubmittedWorkDone] (onWorkDone rig).2 :=
  Rig.makes_call rfl fun buffer => by cases buffer <;> rfl

theorem poll_makes (submission : Option Nat) (timeout : Duration) (rig : Rig) :
    rig.Makes [.poll submission timeout (rig.bench.script.polls.headD .ok)]
      (poll submission timeout rig).2 :=
  Rig.makes_call rfl fun buffer => mapping_poll rig.device _ buffer

theorem mapAsync_makes (owner : Staging) (rig : Rig) :
    rig.Makes [.mapAsync owner (rig.bench.script.maps.headD true)] (mapAsync owner rig).2 :=
  Rig.makes_call rfl fun buffer => mapping_mapAsync rig.device owner buffer _

theorem mappedRange_makes (owner : Staging) (rig : Rig) :
    rig.Makes [.getMappedRange owner (rig.device.mappedRange rig.bench.script owner).length]
      (mappedRange owner rig).2 :=
  Rig.makes_call rfl fun _ => rfl

theorem unmap_makes (owner : Staging) (rig : Rig) : rig.Makes [.unmap owner] (unmap owner rig).2 :=
  Rig.makes_call rfl fun buffer => mapping_unmap rig.device owner buffer

theorem createPipeline_makes (call : Call) (still : call.Still) (rig : Rig) :
    rig.Makes [call] (createPipeline call rig).2 :=
  Rig.makes_call rfl fun buffer =>
    (congrFun (mapping_raise _ _) buffer).trans (still buffer _).symm

theorem noteAll_makes {calls : List Call} (still : ∀ call ∈ calls, call.Still) (rig : Rig) :
    rig.Makes calls (noteAll calls rig).2 := by
  change rig.Makes calls (calls.foldl Rig.record rig)
  induction calls generalizing rig with
  | nil => exact Rig.Makes.refl rig
  | cons call calls ih =>
    have first : rig.Makes [call] (rig.record call) :=
      Rig.makes_call rfl fun buffer => (still call List.mem_cons_self buffer _).symm
    exact first.trans (ih (fun other member => still other (List.mem_cons_of_mem call member)) _)

end Action

end DualEval.Device
