/-!
# Failures of a run

A failure is a message with the chain of its causes, outermost first.  It is written with the causes
indented under a heading, and numbered when there are several.
-/

namespace DualEval.Harness

/-- Why a run ends early or in vain. -/
structure Failure where
  message : String
  causes : List String := []
deriving DecidableEq

namespace Failure

def causeLines : List String → List String
  | [cause] => ["    " ++ cause]
  | causes => causes.zipIdx.map fun (cause, i) => "    " ++ toString i ++ ": " ++ cause

def render (failure : Failure) : String :=
  let heading := "Error: " ++ failure.message ++ "\n"
  if failure.causes = [] then heading
  else
    heading ++ "\nCaused by:\n" ++ String.join ((causeLines failure.causes).map (· ++ "\n"))

end Failure

end DualEval.Harness
