import DualEval.Proofs.EvaluationSteps

/-!
# What an evaluation keeps

Behind its launch an evaluation only polls, requests mappings, reads ranges and ends mappings.  A
property of the rig that each of these keeps is kept by the whole, whether it answers or breaks
down. Fresh signals, open error scopes and the account of devices are such properties; the number of
submissions is kept behind the launch, which adds one to it.
-/

namespace DualEval

open Device

/-! ### What polls and mappings leave alone -/

namespace Device

/-- The open error scopes and the number of submissions. -/
def ledger (d : Device) : List (Option String) × Nat := (d.scopes, d.submissions)

theorem ledger_poll (d : Device) (outcome : PollOutcome) : (d.poll outcome).ledger = d.ledger := by
  cases outcome <;> rfl

theorem ledger_mapAsync (d : Device) (buffer : Staging) (granted : Bool) :
    (d.mapAsync buffer granted).2.ledger = d.ledger := by
  cases buffer <;> rfl

theorem ledger_unmap (d : Device) (buffer : Staging) : (d.unmap buffer).ledger = d.ledger := by
  cases buffer <;> rfl

theorem submissions_raise (d : Device) (error : Option String) :
    (d.raise error).submissions = d.submissions := by
  unfold raise
  split <;> rfl

theorem submissions_popScope (d : Device) : d.popScope.2.submissions = d.submissions := by
  unfold popScope
  split <;> rfl

theorem submissions_submit (d : Device) (script : Script) (commands : List Command) :
    (d.submit script commands).2.submissions = d.submissions + 1 := by
  unfold submit
  split
  · exact submissions_raise _ _
  · exact congrArg submissions (bare_commands script commands _)

end Device

/-! ### Behind a launch -/

namespace Session

/-- A property of the rig that the calls behind a launch keep. -/
structure Stable (P : Rig → Prop) : Prop where
  poll : ∀ submission timeout, (Action.poll submission timeout).Keeps P
  mapAsync : ∀ buffer, (Action.mapAsync buffer).Keeps P
  mappedRange : ∀ buffer, (Action.mappedRange buffer).Keeps P
  unmap : ∀ buffer, (Action.unmap buffer).Keeps P

variable {α : Type} {P : Rig → Prop}

theorem Stable.giveBack (stable : Stable P) (buffer : Staging) (ending : Except Breakdown α) :
    (giveBack buffer ending).Keeps P := by
  unfold Session.giveBack
  split
  · split
    · exact Action.keeps_pure ()
    · exact stable.unmap buffer
  · exact stable.unmap buffer

theorem Stable.withMapping (stable : Stable P) {block : Nat → Action α} (buffer : Staging)
    (kept : ∀ signal, (block signal).Keeps P) : (withMapping buffer block).Keeps P := by
  refine Action.keeps_bind (stable.mapAsync buffer) fun signal => ?_
  intro rig holds
  exact stable.giveBack buffer _ _ (kept signal rig holds)

theorem Stable.await (stable : Stable P) (timeout : Duration) (stage : Stage)
    (submission : Option Nat) (signal : Nat) : (await timeout stage submission signal).Keeps P := by
  intro rig holds
  rw [await_rig]
  exact stable.poll submission timeout rig holds

theorem Stable.resolve (stable : Stable P) (timeout : Duration) (buffer : Staging) (signal : Nat) :
    (resolve timeout buffer signal).Keeps P := by
  intro rig holds
  rw [resolve_rig]
  exact stable.poll none timeout rig holds

theorem Stable.readRange (stable : Stable P) (buffer : Staging) : (readRange buffer).Keeps P := by
  intro rig holds
  rw [readRange_rig]
  exact stable.mappedRange buffer rig holds

theorem Stable.collect (stable : Stable P) (timeout : Duration) : (collect timeout).Keeps P := by
  refine stable.withMapping .result fun result => ?_
  refine stable.withMapping .diagnostics fun diagnostics => ?_
  refine Action.keeps_bind (stable.resolve timeout .result result) fun _ => ?_
  refine Action.keeps_bind (stable.resolve timeout .diagnostics diagnostics) fun _ => ?_
  refine Action.keeps_bind (stable.readRange .result) fun value => ?_
  exact Action.keeps_bind (stable.readRange .diagnostics) fun slots => Action.keeps_pure _

/-- What holds behind a launch, and is kept from there on, holds in the end. -/
theorem Stable.evaluate_of_launch (stable : Stable P) {timeout : Duration} {e : Expression}
    {rig : Rig} (launched : P (launch e rig).2) : P (Session.evaluate timeout e rig).2 := by
  unfold Session.evaluate
  rw [Action.bind_apply]
  split
  next a after run =>
    rw [run] at launched
    have waited := Action.keeps_bind (stable.await timeout .submission (some a.1) a.2)
      fun _ => stable.collect timeout
    exact waited after launched
  next breakdown after run =>
    rw [run] at launched
    exact launched

theorem Stable.evaluate (stable : Stable P) {timeout : Duration} {e : Expression}
    (launched : (launch e).Keeps P) : (evaluate timeout e).Keeps P :=
  fun rig holds => stable.evaluate_of_launch (launched rig holds)

/-! ### Properties that are kept -/

theorem evaluate_keeps_fresh (timeout : Duration) (e : Expression) :
    (evaluate timeout e).Keeps fun rig => rig.device.Fresh := by
  apply Stable.evaluate
  · exact {
      poll := fun _ _ _ fresh => fresh.poll _
      mapAsync := fun buffer _ fresh => fresh.mapAsync buffer _
      mappedRange := fun _ _ fresh => fresh
      unmap := fun buffer _ fresh => fresh.unmap buffer }
  · intro rig fresh
    exact fresh_launch fresh e

/-- What is said of the ledger alone is kept behind a launch. -/
theorem stable_ledger (P : List (Option String) × Nat → Prop) :
    Stable fun rig => P rig.device.ledger where
  poll := by
    intro submission timeout rig holds
    rw [poll_device, ledger_poll]
    exact holds
  mapAsync := by
    intro buffer rig holds
    have same := ledger_mapAsync rig.device buffer (rig.bench.script.maps.headD true)
    exact same ▸ holds
  mappedRange := fun _ _ holds => holds
  unmap := by
    intro buffer rig holds
    have same := ledger_unmap rig.device buffer
    exact same ▸ holds

/-- A launch closes the scope that it opens. -/
theorem scopes_launch (e : Expression) (rig : Rig) :
    (launch e rig).2.device.scopes = rig.device.scopes := by
  have scopes : (Action.onWorkDone (submitted e rig)).2.device.scopes =
      rig.bench.script.submitError :: rig.device.scopes := scopes_submitted e rig
  rw [launch_rig]
  change (Action.onWorkDone (submitted e rig)).2.device.popScope.2.scopes = _
  rw [popScope, scopes]

theorem evaluate_keeps_scopes (timeout : Duration) (e : Expression) (scopes : List (Option String)) :
    (evaluate timeout e).Keeps fun rig => rig.device.scopes = scopes := by
  apply (stable_ledger fun ledger => ledger.1 = scopes).evaluate
  intro rig same
  exact (scopes_launch e rig).trans same

theorem submissions_launch (e : Expression) (rig : Rig) :
    (launch e rig).2.device.submissions = rig.device.submissions + 1 := by
  rw [launch_rig]
  exact (submissions_popScope _).trans (submissions_submit _ _ _)

/-- An evaluation makes one submission, however it ends. -/
theorem submissions_evaluate (timeout : Duration) (e : Expression) (rig : Rig) :
    (evaluate timeout e rig).2.device.submissions = rig.device.submissions + 1 := by
  apply (stable_ledger fun ledger => ledger.2 = rig.device.submissions + 1).evaluate_of_launch
  exact submissions_launch e rig

theorem launch_keeps_account (e : Expression) (created : Nat) (released : List Nat) :
    (launch e).Keeps fun rig => rig.bench.created = created ∧ rig.bench.released = released := by
  have noted : encode.Keeps fun rig =>
      rig.bench.created = created ∧ rig.bench.released = released :=
    Action.keeps_noteAll (fun _ _ same => same) _
  refine Action.keeps_bind (fun _ same => same) fun _ => ?_
  refine Action.keeps_bind (fun _ same => same) fun _ => ?_
  refine Action.keeps_bind noted fun _ => ?_
  refine Action.keeps_bind (fun _ same => same) fun _ => ?_
  refine Action.keeps_bind (fun _ same => same) fun _ => ?_
  refine Action.keeps_bind (fun _ same => same) fun caught => ?_
  cases caught <;> exact fun _ same => same

/-- An evaluation makes no device and gives none back. -/
theorem evaluate_keeps_account (timeout : Duration) (e : Expression) (created : Nat)
    (released : List Nat) :
    (evaluate timeout e).Keeps fun rig =>
      rig.bench.created = created ∧ rig.bench.released = released := by
  apply Stable.evaluate
  · exact {
      poll := fun _ _ _ same => same
      mapAsync := fun _ _ same => same
      mappedRange := fun _ _ same => same
      unmap := fun _ _ same => same }
  · exact launch_keeps_account e created released

end Session

end DualEval
