import DualEval.Harness.Basic
import DualEval.Proofs.AnswerRules

/-!
# Clean accounts

An account stays clean with an evaluation exactly if that passes, whichever operator it is entered
under, and nothing entered later makes up for one that does not.  Sets are therefore all clean exactly if every
text comes back as an evaluation that passes (`DualEval.Harness.runSets_eq_ok_nil_iff`).
-/

namespace DualEval

variable {σ : Type} {A : Accelerator σ}

namespace Harness

/-- An evaluation passes if it is verified and no diagnostic slot is off. -/
def Passes (tolerance : Binary32) (e : Evaluation) : Prop :=
  ∃ output, e.status = .verified output ∧
    Parity.mismatches e.expression output.diagnostics tolerance = []

variable {tolerance : Binary32} {e : Evaluation}

/-! ### Accounts -/

theorem passes_iff : Passes tolerance e ↔
    e.isDegraded = false ∧ isDiverged e = false ∧ wrongSlots tolerance e = [] := by
  obtain ⟨expression, reference, status⟩ := e
  cases status <;> simp [Passes, Evaluation.isDegraded, isDiverged, wrongSlots, Evaluation.output?]

theorem Tally.isClean_enter {tally : Tally} : (tally.enter tolerance e).isClean = true ↔
    tally.isClean = true ∧ isDiverged e = false ∧ wrongSlots tolerance e = [] := by
  simp only [Tally.isClean, Tally.enter, Bool.and_eq_true, decide_eq_true_eq, Nat.add_eq_zero_iff]
  cases isDiverged e <;> by_cases slots : wrongSlots tolerance e = [] <;> simp [slots]

namespace Account

variable {account : Account}

theorem tally_update (operator operator' : Operator) (change : Tally → Tally) :
    (account.update operator change).tally operator' =
      if operator = operator' then change (account.tally operator') else account.tally operator' := by
  cases operator <;> cases operator' <;> rfl

theorem isClean_iff : account.isClean = true ↔
    account.fallbacks = 0 ∧ ∀ operator, (account.tally operator).isClean = true := by
  simp only [isClean, Bool.and_eq_true, decide_eq_true_eq, List.all_eq_true]
  exact and_congr_right fun _ => forall_congr' fun operator => by simp [Operator.mem_all]

theorem tally_enter (operator : Operator) : (account.enter tolerance e).tally operator =
    if e.expression.operator = operator then (account.tally operator).enter tolerance e
    else account.tally operator :=
  tally_update e.expression.operator operator (Tally.enter tolerance e)

theorem fallbacks_enter : (account.enter tolerance e).fallbacks =
    account.fallbacks + if e.isDegraded then 1 else 0 := by
  have kept (change : Tally → Tally) :
      (account.update e.expression.operator change).fallbacks = account.fallbacks := by
    cases e.expression.operator <;> rfl
  rw [enter, kept]

/-- An account stays clean with an evaluation exactly if that passes. -/
theorem isClean_enter :
    (account.enter tolerance e).isClean = true ↔ account.isClean = true ∧ Passes tolerance e := by
  simp only [isClean_iff, passes_iff, fallbacks_enter, tally_enter]
  constructor
  · rintro ⟨answered, clean⟩
    have own := clean e.expression.operator
    rw [if_pos rfl, Tally.isClean_enter] at own
    have degraded : e.isDegraded = false := by
      cases degraded : e.isDegraded with
      | false => rfl
      | true => simp [degraded] at answered
    refine ⟨⟨by omega, fun operator => ?_⟩, degraded, own.2⟩
    by_cases same : e.expression.operator = operator
    · exact same ▸ own.1
    · have other := clean operator
      rwa [if_neg same] at other
  · rintro ⟨⟨answered, clean⟩, degraded, passed⟩
    refine ⟨by simp [answered, degraded], fun operator => ?_⟩
    split
    · exact Tally.isClean_enter.mpr ⟨clean operator, passed⟩
    · exact clean operator

end Account

/-! ### Cases one after the other -/

open Evaluator

/-- Every text comes back as an evaluation that passes. -/
def AllPass (A : Accelerator σ) (tolerance : Binary32) (texts : List String) (evaluator : Evaluator σ) :
    Prop :=
  ∀ answer ∈ evaluations A texts evaluator,
    ∃ evaluation, answer = .ok evaluation ∧ Passes tolerance evaluation

theorem allPass_append {texts texts' : List String} {evaluator : Evaluator σ} :
    AllPass A tolerance (texts ++ texts') evaluator ↔
      AllPass A tolerance texts evaluator ∧
        AllPass A tolerance texts' (afterTexts A texts evaluator) := by
  simp only [AllPass, evaluations_append, List.forall_mem_append]

theorem allPass_cons {text : String} {texts : List String} {evaluator : Evaluator σ} :
    AllPass A tolerance (text :: texts) evaluator ↔
      (∃ evaluation, (evaluateText A text evaluator).answer = .ok evaluation ∧
        Passes tolerance evaluation) ∧
        AllPass A tolerance texts (evaluateText A text evaluator).state := by
  simp only [AllPass, evaluations, List.forall_mem_cons]

/-- Cases are run to their end with a clean account exactly if all of them pass, and the account was
clean before. -/
theorem runCases_clean_iff {texts : List String} {progress : Progress σ} :
    (runCases A tolerance texts progress).1 = none ∧
        (runCases A tolerance texts progress).2.account.isClean = true ↔
      progress.account.isClean = true ∧ AllPass A tolerance texts progress.evaluator := by
  induction texts generalizing progress with
  | nil => simp [runCases, AllPass, evaluations]
  | cons text texts ih =>
    rw [allPass_cons]
    simp only [runCases]
    cases (evaluateText A text progress.evaluator).answer with
    | error error => simp
    | ok evaluation => simp [ih, Account.isClean_enter, and_assoc]

theorem evaluator_runCases {texts : List String} {progress : Progress σ}
    (ended : (runCases A tolerance texts progress).1 = none) :
    (runCases A tolerance texts progress).2.evaluator = afterTexts A texts progress.evaluator := by
  induction texts generalizing progress with
  | nil => rfl
  | cons text texts ih =>
    simp only [runCases] at ended ⊢
    cases answer : (evaluateText A text progress.evaluator).answer with
    | error error => simp [answer] at ended
    | ok evaluation =>
      simp only [answer] at ended ⊢
      exact ih ended

/-- A set is clean exactly if all its cases pass. -/
theorem verdict_runSet {set : CaseSet} {evaluator : Evaluator σ} :
    (runSet A tolerance set evaluator).verdict = .ok true ↔
      AllPass A tolerance set.cases evaluator := by
  have start : ({} : Account).isClean = true := by decide
  have clean : (runCases A tolerance set.cases { evaluator }).1 = none ∧ _ ↔ _ := runCases_clean_iff
  rw [and_iff_right start] at clean
  rw [← clean]
  simp only [runSet]
  split
  case h_1 failure failed => simp [failed]
  case h_2 none => simp [none]

theorem evaluator_runSet {set : CaseSet} {evaluator : Evaluator σ} {clean : Bool}
    (ended : (runSet A tolerance set evaluator).verdict = .ok clean) :
    (runSet A tolerance set evaluator).evaluator = afterTexts A set.cases evaluator := by
  simp only [runSet] at ended ⊢
  split at ended
  case h_1 => contradiction
  case h_2 none => exact evaluator_runCases none

/-- Sets are run with none unclean exactly if all their cases pass. -/
theorem runSets_eq_ok_nil_iff {sets : List CaseSet} {evaluator : Evaluator σ} :
    (runSets A tolerance sets evaluator).1 = .ok [] ↔
      AllPass A tolerance (sets.flatMap CaseSet.cases) evaluator := by
  induction sets generalizing evaluator with
  | nil => simp [runSets, AllPass, evaluations]
  | cons set sets ih =>
    rw [List.flatMap_cons, allPass_append, ← verdict_runSet]
    simp only [runSets]
    cases verdict : (runSet A tolerance set evaluator).verdict with
    | error failure => simp
    | ok clean =>
      rw [← evaluator_runSet verdict, ← ih]
      cases (runSets A tolerance sets (runSet A tolerance set evaluator).evaluator).1 <;>
        cases clean <;> simp [Except.map]

end Harness

end DualEval
