import DualEval.Harness.Basic
import DualEval.Session.Basic

/-!
# The command line

The parity harness over a device without faults.
-/

open DualEval

/-- Run the harness with the arguments of the command line, print its report and exit with its
code. -/
def main (arguments : List String) : IO UInt32 := do
  let outcome := Harness.run deviceAccelerator arguments {}
  for line in outcome.lines do
    IO.println line
  IO.eprint outcome.errorText
  return outcome.exitCode
