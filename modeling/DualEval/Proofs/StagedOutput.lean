import DualEval.Session.Dispatch

/-!
# The output on its way to the host

A submission that is carried out leaves the bytes of one output in the staging buffers: what the
kernel writes for the record that was uploaded, with the places overwritten that the script names.
Whatever the buffers held before is gone, and a mapped range of the right length reads back the
output, datum by datum.
-/

namespace DualEval

open Device

namespace Output

/-- The data of an output that pass through a staging buffer. -/
def data (output : Output) : (buffer : Staging) → Vector Binary32 buffer.datumCount
  | .result => #v[output.value]
  | .diagnostics => output.diagnostics.slots

/-- Overwrite the datum at a binding of the kernel and an index; where there is none of the output,
nothing changes. -/
def poke (output : Output) : Nat × Nat × Binary32 → Output
  | (binding, index, x) =>
    if binding = Kernel.resultBinding.number then
      if index = 0 then { output with value := x } else output
    else if binding = Kernel.diagnosticsBinding.number then
      { output with diagnostics := output.diagnostics.set index x }
    else output

end Output

/-- What is written for an expression: the output of the kernel on its record, with the places
overwritten that the script names, in their order. -/
def Device.Script.written (script : Script) (e : Expression) : Output :=
  script.pokes.foldl Output.poke (Kernel.run (Record.ofExpression e))

/-! ### Rows of data as bytes -/

namespace Binary32

/-- The bytes of a row of data. -/
def bytesOf {n : Nat} (xs : Vector Binary32 n) : List UInt8 := xs.toList.flatMap Datum.toBytes

theorem length_flatMap_toBytes (xs : List Binary32) :
    (xs.flatMap Datum.toBytes).length = 4 * xs.length := by
  induction xs with
  | nil => rfl
  | cons x xs ih =>
    rw [List.flatMap_cons, List.length_append, ih, Datum.length_toBytes, List.length_cons]
    omega

theorem length_bytesOf {n : Nat} (xs : Vector Binary32 n) : (bytesOf xs).length = n * 4 := by
  rw [bytesOf, length_flatMap_toBytes, Vector.length_toList, Nat.mul_comm]

theorem take_flatMap_toBytes (n : Nat) (xs : List Binary32) :
    (xs.flatMap Datum.toBytes).take (4 * n) = (xs.take n).flatMap Datum.toBytes := by
  induction xs generalizing n with
  | nil => simp
  | cons x xs ih =>
    cases n with
    | zero => rfl
    | succ n =>
      rw [List.take_succ_cons, List.flatMap_cons, List.flatMap_cons, ← ih, Nat.mul_succ,
        Nat.add_comm, ← Datum.length_toBytes x, List.take_length_add_append]

theorem drop_flatMap_toBytes (n : Nat) (xs : List Binary32) :
    (xs.flatMap Datum.toBytes).drop (4 * n) = (xs.drop n).flatMap Datum.toBytes := by
  have whole : (xs.flatMap Datum.toBytes).take (4 * n) ++ (xs.flatMap Datum.toBytes).drop (4 * n) =
      (xs.take n).flatMap Datum.toBytes ++ (xs.drop n).flatMap Datum.toBytes := by
    rw [List.take_append_drop, ← List.flatMap_append, List.take_append_drop]
  rw [take_flatMap_toBytes] at whole
  exact List.append_cancel_left whole

/-- Data read from their bytes are the data. -/
theorem vectorOfBytes?_bytesOf {n : Nat} (xs : Vector Binary32 n) :
    vectorOfBytes? n (bytesOf xs) = some xs := by
  rw [vectorOfBytes?, dif_pos (length_bytesOf xs)]
  congr 1
  apply Vector.toList_inj.mp
  exact listOfBytes_flatMap_toBytes xs.toList

end Binary32

namespace Device

open Binary32

/-- Storing a datum among the bytes of a row is replacing it in the row. -/
theorem storeDatum_bytesOf {n : Nat} (xs : Vector Binary32 n) (index : Nat) (x : Binary32) :
    storeDatum (bytesOf xs) index x = bytesOf (xs.setIfInBounds index x) := by
  rw [storeDatum, length_bytesOf, bytesOf, bytesOf, Vector.toList_setIfInBounds]
  split
  case isTrue inside =>
    have bound : index < xs.toList.length := by
      rw [Vector.length_toList]
      omega
    rw [List.set_eq_take_append_cons_drop, if_pos bound, List.flatMap_append, List.flatMap_cons,
      take_flatMap_toBytes, ← Nat.mul_succ, drop_flatMap_toBytes, List.append_assoc]
  case isFalse outside =>
    have bound : xs.toList.length ≤ index := by
      rw [Vector.length_toList]
      omega
    rw [List.set_eq_of_length_le bound]

variable {d : Device} {script : Script} {output : Output} {buffer : Staging}

/-! ### The kernel's buffers -/

/-- The buffers that the kernel writes hold the bytes of an output. -/
structure Holds (d : Device) (output : Output) : Prop where
  result : d.result = bytesOf (output.data .result)
  diagnostics : d.diagnostics = bytesOf (output.data .diagnostics)

theorem Holds.poke (holds : d.Holds output) (place : Nat × Nat × Binary32) :
    (d.poke place.1 place.2.1 place.2.2).Holds (output.poke place) := by
  obtain ⟨binding, index, x⟩ := place
  obtain ⟨result, diagnostics⟩ := holds
  by_cases value : binding = Kernel.resultBinding.number
  · subst value
    refine ⟨?_, ?_⟩
    · change storeDatum d.result index x = _
      rw [result, storeDatum_bytesOf, Output.poke, if_pos rfl]
      cases index with
      | zero => rfl
      | succ index => rfl
    · change d.diagnostics = _
      rw [diagnostics, Output.poke, if_pos rfl]
      split <;> rfl
  · by_cases slots : binding = Kernel.diagnosticsBinding.number
    · subst slots
      refine ⟨result, ?_⟩
      change storeDatum d.diagnostics index x = _
      rw [diagnostics, storeDatum_bytesOf]
      rfl
    · rw [Device.poke, if_neg value, if_neg slots, Output.poke, if_neg value, if_neg slots]
      split <;> exact ⟨result, diagnostics⟩

theorem Holds.pokes (holds : d.Holds output) (pokes : List (Nat × Nat × Binary32)) :
    (pokes.foldl (fun d (binding, index, x) => d.poke binding index x) d).Holds
      (pokes.foldl Output.poke output) := by
  induction pokes generalizing d output with
  | nil => exact holds
  | cons place pokes ih => exact ih (holds.poke place)

/-- The kernel leaves the output for the record that is uploaded. -/
theorem holds_runKernel {e : Expression} (uploaded : d.record = (Record.ofExpression e).toBytes) :
    (d.runKernel script).Holds (script.written e) := by
  have run : Kernel.runBytes d.record = .ok (Kernel.run (Record.ofExpression e)) := by
    rw [uploaded, Kernel.runBytes, Record.ofBytes_toBytes]
    rfl
  rw [Device.runKernel, run]
  exact Holds.pokes ⟨(List.flatMap_singleton ..).symm, rfl⟩ script.pokes

/-! ### The staging buffers -/

/-- The staging buffers hold the bytes of an output. -/
def Stages (d : Device) (output : Output) : Prop :=
  ∀ buffer, (d.staged buffer).bytes = bytesOf (output.data buffer)

/-- A submission that is carried out stages the output for the record that is uploaded. -/
theorem stages_submit {e : Expression} (uploaded : d.record = (Record.ofExpression e).toBytes)
    (accepted : script.submitError = none) :
    (d.submit script Session.commands).2.Stages (script.written e) := by
  have holds : ({ d with submissions := d.submissions + 1 }.runKernel script).Holds
      (script.written e) := holds_runKernel uploaded
  rw [submit, accepted]
  intro buffer
  cases buffer with
  | result => exact holds.result
  | diagnostics => exact holds.diagnostics

theorem Stages.popScope (stages : d.Stages output) : d.popScope.2.Stages output := by
  intro buffer
  rw [← stages buffer, Device.popScope]
  split <;> cases buffer <;> rfl

theorem Stages.poll (stages : d.Stages output) (outcome : PollOutcome) :
    (d.poll outcome).Stages output := by
  intro buffer
  rw [← stages buffer]
  cases outcome <;> cases buffer <;> rfl

theorem Stages.mapAsync (stages : d.Stages output) (buffer : Staging) (granted : Bool) :
    (d.mapAsync buffer granted).2.Stages output := by
  intro other
  rw [← stages other]
  cases buffer <;> cases other <;> rfl

/-- The number of bytes that the mapped range of a staging buffer has under a script. -/
def Script.rangeLength (script : Script) (buffer : Staging) : Nat :=
  (script.mappedBytes.lookup (Buffer.staging buffer).label).getD (buffer.datumCount * 4)

theorem length_mappedRange (stages : d.Stages output) (script : Script) (buffer : Staging) :
    (d.mappedRange script buffer).length = script.rangeLength buffer := by
  have full := stages buffer ▸ length_bytesOf (output.data buffer)
  rw [mappedRange, Script.rangeLength]
  split
  case h_1 length given =>
    rw [given, Option.getD_some]
    simp
    omega
  case h_2 free => rw [free, Option.getD_none, full]

/-- A mapped range of the right length shows the whole buffer. -/
theorem mappedRange_of_length (stages : d.Stages output)
    (right : script.rangeLength buffer = buffer.datumCount * 4) :
    d.mappedRange script buffer = bytesOf (output.data buffer) := by
  have full := stages buffer ▸ length_bytesOf (output.data buffer)
  rw [Script.rangeLength] at right
  rw [mappedRange, ← stages buffer]
  split
  case h_1 length given =>
    rw [given, Option.getD_some, ← full] at right
    rw [right, List.take_length, Nat.sub_self, List.replicate_zero, List.append_nil]
  case h_2 => rfl

end Device

end DualEval
