import DualEval.Kernel.Contract

/-!
# The kernel

One run turns a record into a value and the diagnostics.  The kernel shares no code with the host
beyond the four rounded operations: it understands the tag by rounding and comparing, and it settles
division by zero on the bits of its operands.
-/

namespace DualEval

/-- What the kernel writes. -/
structure Output where
  value : Binary32
  diagnostics : Diagnostics
deriving DecidableEq, Inhabited

namespace Kernel

/-- The sign bit. -/
def signMask : UInt32 := 0x80000000

/-- All bits but the sign. -/
def magnitudeMask : UInt32 := 0x7fffffff

/-- The bits of positive infinity. -/
def infinityBits : UInt32 := 0x7f800000

/-- The bits of the quiet NaN. -/
def quietNaNBits : UInt32 := 0x7fc00000

/-- Whether these are the bits of a NaN. -/
def isNaNBits (bits : UInt32) : Bool := infinityBits < bits &&& magnitudeMask

/-- Division, with the cases of a zero divisor settled on the bits. -/
def divide (a b : Binary32) : Binary32 :=
  let aBits := a.toBits
  let bBits := b.toBits
  if bBits &&& magnitudeMask ≠ 0 then a.div b
  else if isNaNBits aBits || aBits &&& magnitudeMask = 0 then .ofBits quietNaNBits
  else .ofBits ((aBits ^^^ bBits) &&& signMask ||| infinityBits)

/-- The tag as an integer, `-1` unless it is one of the four. -/
def decodeTag (tag : Binary32) : Int :=
  let rounded := tag.roundIntegral
  if !rounded.equals tag || rounded.below (.ofInt binary32 0) || Datum.below (.ofInt binary32 3) rounded
  then -1
  else rounded.toInt?.getD (-1)

/-- The result that a decoded tag selects, the quiet NaN for `-1`. -/
def select (tag : Int) (sum difference product quotient : Binary32) : Binary32 :=
  if tag = 0 then sum
  else if tag = 1 then difference
  else if tag = 2 then product
  else if tag = 3 then quotient
  else .ofBits quietNaNBits

def run (record : Record) : Output :=
  let a := record.left
  let b := record.right
  let sum := a.add b
  let difference := a.sub b
  let product := a.mul b
  let quotient := divide a b
  let tag := decodeTag record.tag
  let value := select tag sum difference product quotient
  let lane : Operator → Binary32
    | .add => sum
    | .subtract => difference
    | .multiply => product
    | .divide => quotient
  { value, diagnostics := Diagnostics.build record lane value (.ofInt binary32 tag) }

def runBytes (bytes : List UInt8) : Except ParseError Output := (Record.ofBytes bytes).map run

end Kernel

end DualEval
