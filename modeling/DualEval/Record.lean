import DualEval.Expression.Basic
import DualEval.Expression.Error

/-!
# Records

A record is an expression as the kernel reads it: the operator's tag, the spare datum and the two
operands, four 32-bit words in little-endian order.  Bytes are carried verbatim, NaN payloads
included; only the tag is judged when a record is turned back into an expression.
-/

namespace DualEval

/-- The four bytes of a datum, least significant first. -/
def Datum.toBytes (x : Binary32) : List UInt8 :=
  let word := x.toBits.toNat
  [.ofNat word, .ofNat (word / 256), .ofNat (word / 65536), .ofNat (word / 16777216)]

/-- The datum with these four bytes, least significant first. -/
def Binary32.ofBytes (b0 b1 b2 b3 : UInt8) : Binary32 :=
  Binary32.ofBits
    (.ofNat (b0.toNat + 256 * b1.toNat + 65536 * b2.toNat + 16777216 * b3.toNat))

/-- Bytes read back are the bytes written. -/
theorem Binary32.toBytes_ofBytes (b0 b1 b2 b3 : UInt8) :
    (Binary32.ofBytes b0 b1 b2 b3).toBytes = [b0, b1, b2, b3] := by
  have h0 := b0.toNat_lt
  have h1 := b1.toNat_lt
  have h2 := b2.toNat_lt
  have h3 := b3.toNat_lt
  simp only [Datum.toBytes, Binary32.ofBytes, Binary32.toBits_ofBits, UInt32.toNat_ofNat',
    List.cons.injEq, and_true]
  refine ⟨?_, ?_, ?_, ?_⟩ <;> apply UInt8.toNat.inj <;> rw [UInt8.toNat_ofNat'] <;> omega

/-- Read data from bytes, four at a time; a rest of fewer than four is dropped. -/
def Binary32.listOfBytes : List UInt8 → List Binary32
  | b0 :: b1 :: b2 :: b3 :: rest => Binary32.ofBytes b0 b1 b2 b3 :: Binary32.listOfBytes rest
  | _ => []

/-- Data read back from their bytes are the data written, NaN payloads included. -/
theorem Binary32.listOfBytes_toBytes_append (x : Binary32) (rest : List UInt8) :
    Binary32.listOfBytes (x.toBytes ++ rest) = x :: Binary32.listOfBytes rest := by
  have bound := x.toBits.toNat_lt
  have same : Binary32.ofBytes (.ofNat x.toBits.toNat) (.ofNat (x.toBits.toNat / 256))
      (.ofNat (x.toBits.toNat / 65536)) (.ofNat (x.toBits.toNat / 16777216)) = x := by
    rw [Binary32.ofBytes]
    refine Eq.trans (congrArg Binary32.ofBits (UInt32.toNat.inj ?_)) (Binary32.ofBits_toBits x)
    simp only [UInt32.toNat_ofNat', UInt8.toNat_ofNat']
    omega
  simp only [Datum.toBytes, List.cons_append, List.nil_append, Binary32.listOfBytes, same]

theorem Binary32.listOfBytes_flatMap_toBytes (xs : List Binary32) :
    Binary32.listOfBytes (xs.flatMap Datum.toBytes) = xs := by
  induction xs with
  | nil => rfl
  | cons x xs ih => rw [List.flatMap_cons, Binary32.listOfBytes_toBytes_append, ih]

theorem Datum.length_toBytes (x : Binary32) : x.toBytes.length = 4 := rfl

/-- Bytes hold a quarter as many data. -/
theorem Binary32.length_listOfBytes (bytes : List UInt8) :
    (Binary32.listOfBytes bytes).length = bytes.length / 4 := by
  fun_induction Binary32.listOfBytes bytes with
  | case1 b0 b1 b2 b3 rest ih => simp only [List.length_cons, ih]; omega
  | case2 bytes short =>
    match bytes, short with
    | [], _ | [_], _ | [_, _], _ | [_, _, _], _ => simp
    | b0 :: b1 :: b2 :: b3 :: rest, short => exact absurd rfl (short b0 b1 b2 b3 rest)

/-- Read a fixed number of data from exactly as many bytes as they fill. -/
def Binary32.vectorOfBytes? (count : Nat) (bytes : List UInt8) : Option (Vector Binary32 count) :=
  if h : bytes.length = count * 4 then
    some ⟨(Binary32.listOfBytes bytes).toArray, by
      rw [List.size_toArray, Binary32.length_listOfBytes, h, Nat.mul_div_cancel _ (by decide)]⟩
  else none

/-- What the kernel reads: a tag, the spare datum and two operands. -/
structure Record where
  tag : Binary32
  reserved : Binary32
  left : Binary32
  right : Binary32
deriving DecidableEq, Inhabited

namespace Record

/-- The number of bytes of a record. -/
def byteCount : Nat := 16

/-- The fields in the order in which they are laid out. -/
def toList (r : Record) : List Binary32 := [r.tag, r.reserved, r.left, r.right]

def toBytes (r : Record) : List UInt8 := r.toList.flatMap Datum.toBytes

/-- Read a record; any sixteen bytes are one. -/
def ofBytes (bytes : List UInt8) : Except ParseError Record :=
  if bytes.length = byteCount then
    match Binary32.listOfBytes bytes with
    | [tag, reserved, left, right] => .ok { tag, reserved, left, right }
    | _ => .error .malformed
  else .error .malformed

/-- A record read back from its bytes is the record written. -/
theorem ofBytes_toBytes (r : Record) : ofBytes r.toBytes = .ok r := by
  have full : r.toBytes.length = byteCount := rfl
  rw [ofBytes, if_pos full, toBytes, Binary32.listOfBytes_flatMap_toBytes, toList]

def ofExpression (e : Expression) : Record :=
  { tag := e.operator.tagDatum, reserved := e.reserved, left := e.left, right := e.right }

/-- The expression that a record stands for; a tag that names no operator is refused. -/
def toExpression (r : Record) : Except ParseError Expression :=
  match Operator.ofTag? r.tag with
  | some operator =>
    .ok { operator, left := r.left, right := r.right, reserved := r.reserved }
  | none => .error .malformed

/-- Numerical equality, field by field. -/
def equals (x y : Record) : Bool :=
  x.tag.equals y.tag && x.reserved.equals y.reserved && x.left.equals y.left &&
    x.right.equals y.right

end Record

end DualEval
