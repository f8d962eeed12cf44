import DualEval.Natural

/-!
# Durations

A span of time in whole nanoseconds.  Its text names the largest unit that the span fills at least
once and gives the rest as an exact decimal fraction of that unit.
-/

namespace DualEval

/-- A span of time. -/
structure Duration where
  nanoseconds : Nat
deriving DecidableEq, Inhabited

namespace Duration

/-- A span of whole milliseconds. -/
def ofMilliseconds (n : Nat) : Duration := ⟨n * 1000000⟩

/-- A span of seconds and nanoseconds; the latter may fill further seconds. -/
def ofSeconds (seconds nanoseconds : Nat) : Duration := ⟨seconds * 1000000000 + nanoseconds⟩

/-- A unit's name and the number of decimal places of a nanosecond in it. -/
def units : List (String × Nat) := [("s", 9), ("ms", 6), ("µs", 3)]

/-- A quotient by a power of ten as a decimal without trailing zeros. -/
def decimalText (n places : Nat) : String :=
  let fraction := Nat.toDigits 10 (n % 10 ^ places)
  let padded := List.replicate (places - fraction.length) '0' ++ fraction
  let shown := (padded.reverse.dropWhile (· = '0')).reverse
  String.ofList (Nat.toDigits 10 (n / 10 ^ places) ++ if shown = [] then [] else '.' :: shown)

/-- The text of a span: `5s`, `1.5ms`, `999.999µs`, `0ns`. -/
def text (d : Duration) : String :=
  match units.find? fun (_, places) => 10 ^ places ≤ d.nanoseconds with
  | some (name, places) => decimalText d.nanoseconds places ++ name
  | none => decimalText d.nanoseconds 0 ++ "ns"

end Duration

end DualEval
