import DualEval.Record

/-!
# Diagnostics

Beside its value the kernel writes sixteen data for inspection.  Slots 0 to 3 repeat the record,
4 to 7 hold the results of all four operators, 8 repeats the value, 9 is the tag as the kernel
understood it, and the rest are zero.
-/

namespace DualEval

/-- The sixteen data that the kernel writes beside its value. -/
structure Diagnostics where
  slots : Vector Binary32 16
deriving DecidableEq, Inhabited

namespace Diagnostics

def slotCount : Nat := 16

def byteCount : Nat := slotCount * 4

/-- The slots filled from their meaning. -/
def build (record : Record) (lanes : Operator → Binary32) (selected decodedTag : Binary32) :
    Diagnostics :=
  ⟨#v[record.tag, record.reserved, record.left, record.right,
    lanes .add, lanes .subtract, lanes .multiply, lanes .divide,
    selected, decodedTag,
    Binary32.zero, Binary32.zero, Binary32.zero, Binary32.zero, Binary32.zero, Binary32.zero]⟩

/-- What the kernel is expected to write for an expression. -/
def expected (e : Expression) : Diagnostics :=
  build (Record.ofExpression e) (fun operator => operator.apply e.left e.right) e.value
    e.operator.tagDatum

/-- The slots in order. -/
def toList (d : Diagnostics) : List Binary32 := d.slots.toList

/-- The diagnostics with these slots, when there are sixteen. -/
def ofList? (slots : List Binary32) : Option Diagnostics :=
  if h : slots.length = 16 then some ⟨⟨slots.toArray, by simpa using h⟩⟩ else none

/-- The repeated record. -/
def recordEcho (d : Diagnostics) : Record :=
  { tag := d.slots[0], reserved := d.slots[1], left := d.slots[2], right := d.slots[3] }

/-- The four operators' results. -/
def lanes (d : Diagnostics) : List Binary32 := [d.slots[4], d.slots[5], d.slots[6], d.slots[7]]

/-- One operator's result. -/
def lane (d : Diagnostics) : Operator → Binary32
  | .add => d.slots[4]
  | .subtract => d.slots[5]
  | .multiply => d.slots[6]
  | .divide => d.slots[7]

/-- The repeated value. -/
def selected (d : Diagnostics) : Binary32 := d.slots[8]

/-- The tag as understood. -/
def decodedTag (d : Diagnostics) : Binary32 := d.slots[9]

/-- The bytes of the slots. -/
def toBytes (d : Diagnostics) : List UInt8 := d.toList.flatMap Datum.toBytes

/-- Overwrite one slot; a number past the last slot changes nothing. -/
def set (d : Diagnostics) (slot : Nat) (x : Binary32) : Diagnostics :=
  ⟨d.slots.setIfInBounds slot x⟩

/-- Overwrite slots in the order given, so that the last write to a slot stays. -/
def overwrite (d : Diagnostics) (changes : List (Nat × Binary32)) : Diagnostics :=
  changes.foldl (fun d change => d.set change.1 change.2) d

/-- Numerical equality, slot by slot. -/
def equals (x y : Diagnostics) : Bool :=
  (x.toList.zip y.toList).all fun pair => pair.1.equals pair.2

end Diagnostics

end DualEval
