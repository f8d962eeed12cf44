import DualEval.Evaluator.Operation
import DualEval.Harness.Report

/-!
# The parity harness

A run builds the case sets, evaluates every case and reports where the accelerator and the host
disagree.  It succeeds exactly if its arguments are well-formed and either nothing was to be
dispatched or every case of every set came back verified with all diagnostic slots as expected.
-/

namespace DualEval.Harness

variable {σ : Type} (accelerator : Accelerator σ)

/-- A set under way: the evaluator, the account so far and the lines printed, latest first. -/
structure Progress (σ : Type) where
  evaluator : Evaluator σ
  account : Account := {}
  lines : List String := []

/-- Evaluate cases one after the other.  A case that is no expression ends the run. -/
def runCases (tolerance : Binary32) : List String → Progress σ → Option Failure × Progress σ
  | [], progress => (none, progress)
  | text :: rest, progress =>
    let reply := Evaluator.evaluateText accelerator text progress.evaluator
    match reply.answer with
    | .error error =>
      (some {
        message := "generated case " ++ text ++ " failed to parse"
        causes := [error.message] },
        { progress with evaluator := reply.state })
    | .ok evaluation =>
      let lines := Report.caseLines tolerance progress.account.fallbacks evaluation
      runCases tolerance rest
        { evaluator := reply.state
          account := progress.account.enter tolerance evaluation
          lines := lines.reverse ++ progress.lines }

/-- What came of a set: whether it was clean, unless the run ended in it, and the lines printed. -/
structure SetOutcome (σ : Type) where
  verdict : Except Failure Bool
  evaluator : Evaluator σ
  lines : List String

/-- Evaluate a set and sum it up. -/
def runSet (tolerance : Binary32) (set : CaseSet) (evaluator : Evaluator σ) : SetOutcome σ :=
  let (failure, progress) := runCases accelerator tolerance set.cases { evaluator }
  let lines := Report.running set :: progress.lines.reverse
  match failure with
  | some failure => ⟨.error failure, progress.evaluator, lines⟩
  | none =>
    ⟨.ok progress.account.isClean, progress.evaluator,
      lines ++ Report.summary tolerance set progress.account⟩

/-- Evaluate sets one after the other: the labels of those that were not clean, and the lines
printed. -/
def runSets (tolerance : Binary32) :
    List CaseSet → Evaluator σ → Except Failure (List String) × Evaluator σ × List String
  | [], evaluator => (.ok [], evaluator, [])
  | set :: rest, evaluator =>
    let outcome := runSet accelerator tolerance set evaluator
    match outcome.verdict with
    | .error failure => (.error failure, outcome.evaluator, outcome.lines)
    | .ok clean =>
      let (labels, evaluator, lines) := runSets tolerance rest outcome.evaluator
      (labels.map fun labels => if clean then labels else set.label :: labels,
        evaluator, outcome.lines ++ lines)

/-- What a run leaves behind: the lines printed, and the failure if there was one. -/
structure Outcome where
  lines : List String
  failure : Option Failure := none

namespace Outcome

def exitCode (outcome : Outcome) : UInt32 := if outcome.failure.isSome then 1 else 0

def errorText (outcome : Outcome) : String :=
  match outcome.failure with
  | some failure => failure.render
  | none => ""

end Outcome

/-- The failure of a run in which sets were not clean. -/
def unclean (labels : List String) : Failure where
  message := "accelerator results diverged beyond tolerance in: " ++
    String.intercalate ", " labels

/-- Run with options read. -/
def runOptions (options : Options) (state : σ) : Outcome :=
  let header := Report.header options
  let sets := Cases.sets options.count options.seed
  if options.skipDispatch then
    { lines := header :: sets.map Report.prepared ++ [Report.skipped] }
  else
    let settings : EvaluatorSettings := { parityTolerance := options.tolerance }
    let evaluator := (Evaluator.start accelerator settings state).state
    let adapter := (accelerator.adapterName evaluator.state).toList.map Report.adapter
    let (labels, _, lines) := runSets accelerator options.tolerance sets evaluator
    { lines := header :: adapter ++ lines
      failure := match labels with
        | .error failure => some failure
        | .ok [] => none
        | .ok labels => some (unclean labels) }

/-- Run with arguments; a bad argument ends the run before anything is printed.  As in
`Cases.generate`, room for the cases is taken for granted, however many are asked for. -/
def run (arguments : List String) (state : σ) : Outcome :=
  match Options.read arguments with
  | .error error => { lines := [], failure := some error.toFailure }
  | .ok options => runOptions accelerator options state

end DualEval.Harness
