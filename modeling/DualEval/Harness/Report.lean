import DualEval.Cases.Basic
import DualEval.Harness.Account
import DualEval.Harness.Options

/-!
# The report

The lines that a run prints, each a function of what it reports on.
-/

namespace DualEval.Harness.Report

/-- The first line of a run. -/
def header (options : Options) : String :=
  "Generating expression cases (random count=" ++ toString options.count ++ ", seed=" ++
    Cases.seedText options.seed ++ ")"

/-- A set by its label and size. -/
def setName (set : CaseSet) : String :=
  "set '" ++ set.label ++ "' (" ++ toString set.cases.length ++ " cases)"

/-- A set that is not run. -/
def prepared (set : CaseSet) : String := "Prepared " ++ setName set

/-- The last line of a run that dispatches nothing. -/
def skipped : String := "Skip-dispatch flag set; exiting after case preparation."

/-- The adapter in use. -/
def adapter (name : String) : String := "Accelerator adapter: " ++ name

/-- A set about to be run. -/
def running (set : CaseSet) : String := "Running " ++ setName set

def slotsText (slots : List Nat) : String :=
  "[" ++ String.intercalate ", " (slots.map toString) ++ "]"

/-- The lines on one evaluation: the first failure of a set, a divergence, wrong slots. -/
def caseLines (tolerance : Binary32) (earlierFallbacks : Nat) (e : Evaluation) : List String :=
  let expression := e.expression.display
  let outcome := match e.status with
    | .failed error =>
      if earlierFallbacks = 0 then ["  accelerator failed: " ++ error.message] else []
    | .diverged output =>
      ["  diverged: " ++ expression ++ " reference=" ++ e.reference.plainText ++
        " accelerator=" ++ output.value.plainText]
    | .verified _ => []
  let slots := wrongSlots tolerance e
  outcome ++
    (if slots = [] then []
    else ["  diagnostic slots " ++ slotsText slots ++ " differ for " ++ expression])

/-- A text filled up with blanks on the right. -/
def padRight (width : Nat) (text : String) : String :=
  text ++ String.ofList (List.replicate (width - text.length) ' ')

def tallyLine (operator : Operator) (tally : Tally) : String :=
  "  [" ++ operator.symbol ++ "] cases=" ++ padRight 4 (toString tally.cases) ++
    " max |residual|=" ++ tally.maxResidual.briefText ++
    " diverged=" ++ toString tally.diverged ++
    " lane mismatches=" ++ toString tally.laneMismatches

/-- The lines on a set that has been run; an operator without cases is left out. -/
def summary (tolerance : Binary32) (set : CaseSet) (account : Account) : List String :=
  let heading :=
    "Set '" ++ set.label ++ "' residuals (tolerance=" ++ tolerance.plainText ++ "):"
  let present := Operator.all.filter fun operator => (account.tally operator).cases ≠ 0
  let fallbacks :=
    if account.fallbacks = 0 then []
    else ["  " ++ toString account.fallbacks ++ " case(s) fell back to the host reference"]
  heading :: present.map (fun operator => tallyLine operator (account.tally operator)) ++ fallbacks

end DualEval.Harness.Report
