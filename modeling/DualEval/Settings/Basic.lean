import DualEval.Decimal.Basic
import DualEval.Duration

/-!
# Settings

What a caller may choose about the accelerator session and about the comparison of results.
-/

namespace DualEval

/-- Which kind of adapter to ask for. -/
inductive PowerPreference where
  | none
  | lowPower
  | highPerformance
deriving DecidableEq, Inhabited

namespace PowerPreference

/-- The name in settings and requests. -/
def name : PowerPreference → String
  | none => "None"
  | lowPower => "LowPower"
  | highPerformance => "HighPerformance"

end PowerPreference

theorem defaultTimeoutMs_lt : 5000 < UInt64.size := by decide

/-- The settings of an accelerator session. -/
structure AcceleratorSettings where
  powerPreference : PowerPreference := .highPerformance
  /-- Whether a software adapter will do. -/
  forceFallbackAdapter : Bool := false
  /-- The bound on each single wait, in milliseconds. -/
  readbackTimeoutMs : Nat := 5000
  /-- The bound fills one 64-bit word at most. -/
  readbackTimeoutMs_lt : readbackTimeoutMs < UInt64.size := by exact defaultTimeoutMs_lt
deriving DecidableEq

instance : Inhabited AcceleratorSettings := ⟨{}⟩

namespace AcceleratorSettings

/-- The bound on each single wait, never shorter than a millisecond. -/
def readbackTimeout (s : AcceleratorSettings) : Duration :=
  .ofMilliseconds (max s.readbackTimeoutMs 1)

/-- A wait is never bounded by nothing. -/
theorem readbackTimeout_pos (s : AcceleratorSettings) : 0 < s.readbackTimeout.nanoseconds := by
  simp only [readbackTimeout, Duration.ofMilliseconds]
  omega

end AcceleratorSettings

/-- The relative tolerance that is used when none is given, `10 ^ -5`. -/
def defaultTolerance : Binary32 := Decimal.toDatum binary32 ⟨false, 1, -5⟩

structure EvaluatorSettings where
  accelerator : AcceleratorSettings := {}
  /-- The relative tolerance of the comparison, absolute below magnitude one. -/
  parityTolerance : Binary32 := defaultTolerance
deriving DecidableEq

instance : Inhabited EvaluatorSettings := ⟨{}⟩

end DualEval
