import DualEval.Evaluator.Basic

/-!
# The account of a set

For each operator: how many cases ran, the largest residual among those the accelerator answered,
how many diverged and how many had a wrong diagnostic slot.  Besides, the number of cases for which
the host had to stand in.  The account does not depend on the order of the cases.
-/

namespace DualEval.Harness

/-- The account of one operator. -/
structure Tally where
  cases : Nat := 0
  maxResidual : Binary32 := Binary32.zero
  diverged : Nat := 0
  laneMismatches : Nat := 0
deriving DecidableEq, Inhabited

/-- The account of a set. -/
structure Account where
  add : Tally := {}
  subtract : Tally := {}
  multiply : Tally := {}
  divide : Tally := {}
  /-- The cases that the accelerator gave no answer to. -/
  fallbacks : Nat := 0
deriving DecidableEq, Inhabited

/-- The diagnostic slots of an evaluation that are not as expected; none if there was no answer. -/
def wrongSlots (tolerance : Binary32) (e : Evaluation) : List Nat :=
  match e.output? with
  | some output => Parity.mismatches e.expression output.diagnostics tolerance
  | none => []

def isDiverged (e : Evaluation) : Bool :=
  match e.status with
  | .diverged _ => true
  | .verified _ | .failed _ => false

namespace Tally

/-- Take one evaluation into account. -/
def enter (tolerance : Binary32) (e : Evaluation) (tally : Tally) : Tally where
  cases := tally.cases + 1
  maxResidual :=
    match e.output? with
    | some output => tally.maxResidual.max (Parity.residual e.reference output.value)
    | none => tally.maxResidual
  diverged := tally.diverged + (if isDiverged e then 1 else 0)
  laneMismatches := tally.laneMismatches + (if wrongSlots tolerance e = [] then 0 else 1)

/-- Whether nothing was off. -/
def isClean (tally : Tally) : Bool := tally.diverged = 0 && tally.laneMismatches = 0

end Tally

namespace Account

def tally (account : Account) : Operator → Tally
  | .add => account.add
  | .subtract => account.subtract
  | .multiply => account.multiply
  | .divide => account.divide

def update (account : Account) (operator : Operator) (change : Tally → Tally) : Account :=
  match operator with
  | .add => { account with add := change account.add }
  | .subtract => { account with subtract := change account.subtract }
  | .multiply => { account with multiply := change account.multiply }
  | .divide => { account with divide := change account.divide }

/-- Take one evaluation into account. -/
def enter (tolerance : Binary32) (account : Account) (e : Evaluation) : Account :=
  let account := account.update e.expression.operator (Tally.enter tolerance e)
  { account with fallbacks := account.fallbacks + (if e.isDegraded then 1 else 0) }

/-- Whether every case was answered and nothing was off. -/
def isClean (account : Account) : Bool :=
  account.fallbacks = 0 && Operator.all.all fun operator => (account.tally operator).isClean

end Account

end DualEval.Harness
