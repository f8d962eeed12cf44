import DualEval.Diagnostics

/-!
# Parity

When the accelerator's data count as those of the host.  The tolerance is relative, and absolute
below magnitude one; a NaN matches only a NaN, and an infinity only itself.  The comparison is made
in 32-bit arithmetic throughout, as both sides are.
-/

namespace DualEval.Parity

/-- The distance of two data, rounded. -/
def distance (expected actual : Binary32) : Binary32 := (expected.sub actual).abs

/-- The distance that a tolerance allows at an expected datum, rounded. -/
def allowance (expected tolerance : Binary32) : Binary32 :=
  tolerance.mul (expected.abs.max Binary32.one)

/-- Whether an actual datum is as expected within a tolerance. -/
def agree (expected actual tolerance : Binary32) : Bool :=
  if expected.isNaN || actual.isNaN then expected.isNaN && actual.isNaN
  else if expected.isInfinite || actual.isInfinite then expected.equals actual
  else (distance expected actual).atMost (allowance expected tolerance)

/-- How far an actual datum is off, for reports: zero for data that agree exactly, infinity for a
disagreement in which a NaN or an infinity takes part. -/
def residual (expected actual : Binary32) : Binary32 :=
  if agree expected actual Binary32.zero then Binary32.zero
  else if expected.isFinite && actual.isFinite then distance expected actual
  else Datum.infinity binary32 false

/-- The slots in which diagnostics differ from those expected for an expression, in order. -/
def mismatches (e : Expression) (actual : Diagnostics) (tolerance : Binary32) : List Nat :=
  let pairs := (Diagnostics.expected e).toList.zip actual.toList
  (pairs.zipIdx.filter fun (pair, _) => !agree pair.1 pair.2 tolerance).map (·.2)

end DualEval.Parity
