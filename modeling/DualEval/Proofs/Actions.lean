import DualEval.Device.Rig

/-!
# Reasoning about actions

Two rules carry what is proved of single actions over to compositions.  An action keeps a property
of the rig if it ends with it, in success or breakdown, whenever it began with it.  An action passes
a list of checks if it breaks down with the first check that fails and answers when none does; one
thing done after another passes the checks of both, in order.
-/

namespace DualEval.Device

variable {α β : Type}

/-- The answer after a list of checks: the first breakdown in it, or else the value. -/
def verdict (checks : List (Option Breakdown)) (a : α) : Except Breakdown α :=
  match checks.findSome? id with
  | some breakdown => .error breakdown
  | none => .ok a

theorem verdict_of_none {checks : List (Option Breakdown)} (passed : checks.findSome? id = none)
    (a : α) : verdict checks a = .ok a := by
  rw [verdict, passed]

theorem verdict_of_some {checks : List (Option Breakdown)} {breakdown : Breakdown}
    (failed : checks.findSome? id = some breakdown) (a : α) :
    verdict checks a = .error breakdown := by
  rw [verdict, failed]

theorem verdict_eq_error_iff {checks : List (Option Breakdown)} {a : α} {breakdown : Breakdown} :
    verdict checks a = .error breakdown ↔ checks.findSome? id = some breakdown := by
  rw [verdict]
  cases checks.findSome? id <;> simp

namespace Action

variable {first : Action α} {next : α → Action β} {rig : Rig}

theorem bind_apply (first : Action α) (next : α → Action β) (rig : Rig) :
    (first >>= next) rig = match first rig with
      | (.ok a, rig) => next a rig
      | (.error breakdown, rig) => (.error breakdown, rig) := rfl

/-- One thing done after another passes the checks of both. -/
theorem bind_verdict {earlier later : List (Option Breakdown)} {a : α} {b : β}
    (begins : (first rig).1 = verdict earlier a)
    (continues : earlier.findSome? id = none → (next a (first rig).2).1 = verdict later b) :
    ((first >>= next) rig).1 = verdict (earlier ++ later) b := by
  obtain ⟨ending, after, run⟩ : ∃ ending after, first rig = (ending, after) := ⟨_, _, rfl⟩
  rw [run] at begins continues
  cases checks : earlier.findSome? id with
  | some breakdown =>
    rw [verdict_of_some checks] at begins
    obtain rfl : ending = .error breakdown := begins
    have failed : (earlier ++ later).findSome? id = some breakdown := by
      rw [List.findSome?_append, checks, Option.some_or]
    rw [bind_apply_of_error run, verdict_of_some failed]
  | none =>
    rw [verdict_of_none checks] at begins
    obtain rfl : ending = .ok a := begins
    rw [bind_apply_of_ok run, continues checks, verdict, verdict, List.findSome?_append, checks,
      Option.none_or]

/-- What leaves the rig alone does not matter to how the rig is left. -/
theorem bind_rig (still : ∀ a rig, (next a rig).2 = rig) :
    ((first >>= next) rig).2 = (first rig).2 := by
  rw [bind_apply]
  split
  next a after run => rw [still, run]
  next breakdown after run => rw [run]

/-- Whatever comes of the action, it leaves the rig with a property that the rig had before. -/
def Keeps (P : Rig → Prop) (action : Action α) : Prop := ∀ rig, P rig → P (action rig).2

variable {P : Rig → Prop}

theorem keeps_pure (a : α) : Keeps P (pure a : Action α) := fun _ holds => holds

theorem keeps_bind (begins : Keeps P first) (continues : ∀ a, Keeps P (next a)) :
    Keeps P (first >>= next) := by
  intro rig holds
  have between := begins rig holds
  rw [bind_apply]
  split
  next a after run =>
    rw [run] at between
    exact continues a after between
  next breakdown after run =>
    rw [run] at between
    exact between

theorem keeps_noteAll (recorded : ∀ rig call, P rig → P (rig.record call)) (calls : List Call) :
    Keeps P (noteAll calls) := by
  intro rig holds
  change P (calls.foldl Rig.record rig)
  induction calls generalizing rig with
  | nil => exact holds
  | cons call calls ih => exact ih (rig.record call) (recorded rig call holds)

end Action

end DualEval.Device
