import DualEval.Proofs.Tags

/-!
# The bytes of a record

An expression is written as the sixteen bytes of its record, and read from them again.  Everything but
the tag passes through as it is, so the two directions differ from an identity in one respect only:
the tag may be a negative zero, and is written as a positive one
(`DualEval.Expression.record_codec`).
-/

namespace DualEval

namespace Binary32

/-- Bytes that fill whole words are written back as they were read. -/
theorem flatMap_toBytes_listOfBytes {bytes : List UInt8} (whole : 4 ∣ bytes.length) :
    (listOfBytes bytes).flatMap Datum.toBytes = bytes := by
  fun_induction listOfBytes bytes with
  | case1 b0 b1 b2 b3 rest ih =>
    have remaining : 4 ∣ rest.length := by
      simp only [List.length_cons] at whole
      omega
    rw [List.flatMap_cons, toBytes_ofBytes, ih remaining]
    rfl
  | case2 bytes short =>
    rcases bytes with _ | ⟨b0, _ | ⟨b1, _ | ⟨b2, _ | ⟨b3, rest⟩⟩⟩⟩
    case nil => rfl
    case cons.cons.cons.cons => exact absurd rfl (short b0 b1 b2 b3 rest)
    all_goals
      simp only [List.length_cons, List.length_nil] at whole
      omega

theorem toBytes_injective : Function.Injective (Datum.toBytes : Binary32 → List UInt8) := by
  intro x y same
  have words := congrArg listOfBytes same
  rw [← List.append_nil x.toBytes, ← List.append_nil y.toBytes, listOfBytes_toBytes_append,
    listOfBytes_toBytes_append] at words
  exact (List.cons.inj words).1

end Binary32

namespace Operator

variable {tag : Binary32} {operator : Operator}

theorem tagDatum_spec (operator : Operator) : operator.tagDatum.isFinite = true ∧
    operator.tagDatum.signedUnits = operator.tag * binary32.one :=
  Datum.ofInt_natCast binary32_holdsIntegers (operator.tag_le.trans (by decide))

theorem denotes_iff_equals : Denotes tag operator ↔ tag.equals operator.tagDatum = true := by
  obtain ⟨bounded, value⟩ := operator.tagDatum_spec
  constructor
  · rintro ⟨finite, denoted⟩
    rw [Datum.equals_iff finite bounded, denoted, value]
  · intro same
    have finite : tag.isFinite = true := by
      rw [Datum.isFinite_iff, Datum.code_eq_of_equals same]
      exact Datum.isFinite_iff.mp bounded
    rw [Datum.equals_iff finite bounded, value] at same
    exact ⟨finite, same⟩

/-- A tag that names an operator is the operator's own, or a negative zero in its place. -/
theorem tagDatum_of_denotes (denotes : Denotes tag operator) :
    operator.tagDatum = if tag = Datum.zero binary32 true then Binary32.zero else tag := by
  have same := denotes_iff_equals.mp denotes
  have code : operator.tagDatum.code = tag.code := (Datum.code_eq_of_equals same).symm
  have positive : operator.tagDatum.negative = false := by cases operator <;> rfl
  cases sign : tag.negative with
  | false =>
    have other : tag ≠ Datum.zero binary32 true := by
      rintro rfl
      contradiction
    rw [if_neg other]
    exact Datum.eq_of_fields (positive.trans sign.symm) code
  | true =>
    -- the keys of equal data are equal, and here they have opposite signs
    have none : tag.code = 0 := by
      simp only [Datum.equals, Bool.and_eq_true, beq_iff_eq, Datum.orderKey, sign, positive,
        if_true, Bool.false_eq_true, if_false] at same
      omega
    have zero : tag = Datum.zero binary32 true := Datum.eq_of_fields sign none
    rw [if_pos zero]
    exact Datum.eq_of_fields positive (code.trans none)

end Operator

namespace Record

variable {bytes : List UInt8} {record : Record}

/-- A record is read from sixteen bytes and no other number, and they are its bytes. -/
theorem ofBytes_eq_ok_iff :
    ofBytes bytes = .ok record ↔ bytes.length = byteCount ∧ record.toBytes = bytes := by
  constructor
  · intro read
    rw [ofBytes] at read
    split at read
    case isFalse => contradiction
    case isTrue full =>
      refine ⟨full, ?_⟩
      split at read
      case h_1 tag reserved left right words =>
        cases read
        rw [toBytes, toList, ← words]
        exact Binary32.flatMap_toBytes_listOfBytes (full ▸ ⟨4, rfl⟩)
      case h_2 => contradiction
  · rintro ⟨_, rfl⟩
    exact ofBytes_toBytes record

/-- Sixteen bytes are the bytes of a record. -/
theorem exists_of_length (full : bytes.length = byteCount) :
    ∃ record : Record, record.toBytes = bytes := by
  have count := Binary32.length_listOfBytes bytes
  rw [full, byteCount] at count
  have words : 4 ∣ bytes.length := full ▸ ⟨4, rfl⟩
  have written := Binary32.flatMap_toBytes_listOfBytes words
  match known : Binary32.listOfBytes bytes, count with
  | [tag, reserved, left, right], _ =>
    refine ⟨{ tag, reserved, left, right }, ?_⟩
    rw [known] at written
    exact written

end Record

namespace Expression

/-- The bytes of the record of an expression. -/
def toBytes (e : Expression) : List UInt8 := (Record.ofExpression e).toBytes

/-- The expression whose record has these bytes. -/
def ofBytes (bytes : List UInt8) : Except ParseError Expression :=
  (Record.ofBytes bytes).bind Record.toExpression

/-- The bytes behind the tag. -/
def payload (e : Expression) : List UInt8 := [e.reserved, e.left, e.right].flatMap Datum.toBytes

variable {bytes : List UInt8} {e : Expression}

theorem toBytes_eq (e : Expression) : e.toBytes = e.operator.tagDatum.toBytes ++ e.payload := by
  rw [toBytes, Record.toBytes, Record.toList, List.flatMap_cons]
  rfl

theorem length_payload (e : Expression) : e.payload.length = 12 := rfl

theorem toExpression_eq_ok_iff {record : Record} :
    record.toExpression = .ok e ↔ Operator.Denotes record.tag e.operator ∧
      record.reserved = e.reserved ∧ record.left = e.left ∧ record.right = e.right := by
  rw [← Operator.ofTag?_eq_some_iff, Record.toExpression]
  constructor
  · intro read
    split at read
    case h_1 operator named =>
      cases read
      exact ⟨named, rfl, rfl, rfl⟩
    case h_2 => contradiction
  · rintro ⟨named, reserved, left, right⟩
    rw [named, reserved, left, right]

/-- An expression is read from its own bytes, with any tag in front that names its operator. -/
theorem ofBytes_eq_ok_iff : ofBytes bytes = .ok e ↔
    ∃ tag, Operator.Denotes tag e.operator ∧ bytes = tag.toBytes ++ e.payload := by
  constructor
  · intro read
    rw [ofBytes] at read
    cases words : Record.ofBytes bytes with
    | error error =>
      rw [words, Except.bind] at read
      contradiction
    | ok record =>
      rw [words, Except.bind, toExpression_eq_ok_iff] at read
      obtain ⟨denotes, reserved, left, right⟩ := read
      refine ⟨record.tag, denotes, ?_⟩
      rw [← (Record.ofBytes_eq_ok_iff.mp words).2, Record.toBytes, Record.toList, reserved, left,
        right, List.flatMap_cons, payload]
  · rintro ⟨tag, denotes, rfl⟩
    have written : tag.toBytes ++ e.payload =
        ({ tag, reserved := e.reserved, left := e.left, right := e.right } : Record).toBytes := by
      rw [Record.toBytes, Record.toList, List.flatMap_cons, payload]
    rw [ofBytes, written, Record.ofBytes_toBytes, Except.bind]
    exact toExpression_eq_ok_iff.mpr ⟨denotes, rfl, rfl, rfl⟩

theorem ofBytes_toBytes (e : Expression) : ofBytes e.toBytes = .ok e :=
  ofBytes_eq_ok_iff.mpr
    ⟨e.operator.tagDatum, Operator.ofTag?_eq_some_iff.mp (Operator.ofTag?_tagDatum e.operator),
      toBytes_eq e⟩

theorem exists_ofBytes_iff : (∃ e, ofBytes bytes = .ok e) ↔
    bytes.length = 16 ∧ ∃ tag ∈ (Binary32.listOfBytes bytes).head?,
      ∃ n : Nat, n ≤ 3 ∧ tag.equals (Datum.ofInt binary32 n) = true := by
  constructor
  · rintro ⟨e, read⟩
    obtain ⟨tag, denotes, rfl⟩ := ofBytes_eq_ok_iff.mp read
    refine ⟨by rw [List.length_append, Datum.length_toBytes, length_payload], tag, ?_,
      e.operator.tag, e.operator.tag_le, Operator.denotes_iff_equals.mp denotes⟩
    rw [Binary32.listOfBytes_toBytes_append]
    rfl
  · rintro ⟨full, tag, first, n, small, same⟩
    obtain ⟨record, rfl⟩ := Record.exists_of_length full
    rw [Record.toBytes, Binary32.listOfBytes_flatMap_toBytes] at first
    obtain rfl : record.tag = tag := Option.some.inj first
    obtain ⟨operator, number⟩ := Operator.exists_tag_eq (n := n) (by omega) (by omega)
    have named : n = operator.tag := by exact_mod_cast number.symm
    subst named
    refine ⟨{ operator, left := record.left, right := record.right, reserved := record.reserved },
      ofBytes_eq_ok_iff.mpr ⟨record.tag, Operator.denotes_iff_equals.mpr same, ?_⟩⟩
    rw [Record.toBytes, Record.toList, List.flatMap_cons, payload]

theorem malformed_of_ofBytes {error : ParseError} (refused : ofBytes bytes = .error error) :
    error = .malformed := by
  unfold ofBytes Record.ofBytes at refused
  split at refused
  · split at refused
    · rw [Except.bind, Record.toExpression] at refused
      split at refused
      · contradiction
      · exact (Except.error.inj refused).symm
    · exact (Except.error.inj refused).symm
  · exact (Except.error.inj refused).symm

theorem toBytes_of_ofBytes (read : ofBytes bytes = .ok e) :
    e.toBytes = if bytes.take 4 = [0x00, 0x00, 0x00, 0x80]
      then [0x00, 0x00, 0x00, 0x00] ++ bytes.drop 4 else bytes := by
  obtain ⟨tag, denotes, rfl⟩ := ofBytes_eq_ok_iff.mp read
  have negativeZero : (Datum.zero binary32 true).toBytes = [0x00, 0x00, 0x00, 0x80] := by decide
  have positiveZero : Binary32.zero.toBytes = [0x00, 0x00, 0x00, 0x00] := by decide
  have front : (tag.toBytes ++ e.payload).take 4 = tag.toBytes := List.take_left' tag.length_toBytes
  have back : (tag.toBytes ++ e.payload).drop 4 = e.payload := List.drop_left' tag.length_toBytes
  rw [toBytes_eq, Operator.tagDatum_of_denotes denotes, front, back, ← negativeZero, ← positiveZero]
  simp only [Binary32.toBytes_injective.eq_iff]
  split <;> rfl

/-- **The codec of records.** An expression is read back from its bytes bit for bit.  Bytes are read
exactly if there are sixteen of them and the first word is numerically a tag, and are malformed
otherwise; what is read is written as the same bytes, but for a tag of negative zero, which becomes a
positive one. -/
theorem record_codec :
    (∀ e : Expression, ofBytes e.toBytes = .ok e) ∧
    ∀ bytes : List UInt8,
      ((∃ e, ofBytes bytes = .ok e) ↔
        bytes.length = 16 ∧ ∃ tag ∈ (Binary32.listOfBytes bytes).head?,
          ∃ n : Nat, n ≤ 3 ∧ tag.equals (Datum.ofInt binary32 n) = true) ∧
      (∀ error, ofBytes bytes = .error error → error = .malformed) ∧
      ∀ e, ofBytes bytes = .ok e →
        e.toBytes = if bytes.take 4 = [0x00, 0x00, 0x00, 0x80]
          then [0x00, 0x00, 0x00, 0x00] ++ bytes.drop 4 else bytes :=
  ⟨ofBytes_toBytes, fun _ =>
    ⟨exists_ofBytes_iff, fun _ => malformed_of_ofBytes, fun _ => toBytes_of_ofBytes⟩⟩

end Expression

end DualEval
