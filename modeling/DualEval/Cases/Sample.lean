import DualEval.Binary.Arithmetic
import DualEval.Cases.KeyStream

/-!
# Sampling a closed range

A word of the stream becomes a datum of a closed range: its upper bits are a fraction below one,
which is scaled and shifted, in 32-bit arithmetic.  The scale is the largest for which the greatest
fraction does not pass the upper end.
-/

namespace DualEval.Sample

/-- The lower end of the range, minus a thousand. -/
def low : Binary32 := Datum.ofInt binary32 (-1000)

/-- The upper end of the range, a thousand. -/
def high : Binary32 := Datum.ofInt binary32 1000

/-- The upper bits of a word as a fraction of at least zero and below one. -/
def fraction (w : UInt32) : Binary32 :=
  (Binary32.ofBits (w >>> 9 ||| Binary32.one.toBits)).sub Binary32.one

def greatestFraction : Binary32 := fraction 0xffffffff

def place (scale fraction : Binary32) : Binary32 := (fraction.mul scale).add low

/-- The first scale, from a given one downward, that keeps the greatest fraction in the range; the
search ends after as many steps as it is given. -/
def fitScale : Nat → Binary32 → Binary32
  | 0, scale => scale
  | steps + 1, scale =>
    if high.below (place scale greatestFraction) then fitScale steps scale.towardZero else scale

/-- The scale of the range. -/
def scale : Binary32 := fitScale 64 ((high.sub low).div greatestFraction)

/-- The datum that a word stands for. -/
def ofWord (w : UInt32) : Binary32 := place scale (fraction w)

end DualEval.Sample
