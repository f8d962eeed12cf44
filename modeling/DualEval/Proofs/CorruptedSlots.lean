import DualEval.Proofs.SelfAgreement

/-!
# Corrupted slots

Diagnostics that differ from the expected ones in overwritten slots only are told apart exactly there.
What counts in a slot is the last datum written to it, and a slot that nothing was written to agrees with
itself, whatever the expression puts into it, NaNs and infinities included.  Hence the slots reported are,
in increasing order, those whose last datum does not agree with the expected one
(`DualEval.Parity.mismatches_overwrite`).
-/

namespace DualEval

namespace Diagnostics

variable {changes earlier later : List (Nat × Binary32)} {slot : Nat} {x : Binary32} {d : Diagnostics}

/-- Nothing is written to a slot. -/
def Untouched (changes : List (Nat × Binary32)) (slot : Nat) : Prop :=
  ∀ change ∈ changes, change.1 ≠ slot

/-- A datum is the last one written to a slot. -/
def LastWritten (changes : List (Nat × Binary32)) (slot : Nat) (x : Binary32) : Prop :=
  ∃ earlier later, changes = earlier ++ (slot, x) :: later ∧ Untouched later slot

/-- A slot is left alone, or some datum is the last one written to it. -/
theorem untouched_or_lastWritten (changes : List (Nat × Binary32)) (slot : Nat) :
    Untouched changes slot ∨ ∃ x, LastWritten changes slot x := by
  induction changes with
  | nil => exact .inl (List.forall_mem_nil _)
  | cons change changes ih =>
    rcases ih with untouched | ⟨x, earlier, later, rfl, untouched⟩
    · by_cases same : change.1 = slot
      · exact .inr ⟨change.2, [], changes, by rw [← same, List.nil_append], untouched⟩
      · exact .inl (List.forall_mem_cons.mpr ⟨same, untouched⟩)
    · exact .inr ⟨x, change :: earlier, later, rfl, untouched⟩

theorem Untouched.not_lastWritten (untouched : Untouched changes slot) :
    ¬ LastWritten changes slot x := by
  rintro ⟨earlier, later, rfl, _⟩
  exact untouched (slot, x) (List.mem_append_right _ List.mem_cons_self) rfl

/-! ### Overwriting -/

theorem overwrite_cons (d : Diagnostics) (change : Nat × Binary32) :
    d.overwrite (change :: changes) = (d.set change.1 change.2).overwrite changes := rfl

theorem overwrite_append (d : Diagnostics) :
    d.overwrite (earlier ++ later) = (d.overwrite earlier).overwrite later := List.foldl_append

theorem slots_set (written : Nat) (bound : slot < 16) :
    (d.set written x).slots[slot] = if written = slot then x else d.slots[slot] :=
  Vector.getElem_setIfInBounds bound

/-- A slot that nothing is written to keeps its datum. -/
theorem slots_overwrite_of_untouched (untouched : Untouched changes slot) (bound : slot < 16) :
    (d.overwrite changes).slots[slot] = d.slots[slot] := by
  induction changes generalizing d with
  | nil => rfl
  | cons change changes ih =>
    obtain ⟨other, untouched⟩ := List.forall_mem_cons.mp untouched
    rw [overwrite_cons, ih untouched, slots_set _ bound, if_neg other]

/-- Of the data written to a slot the last one stays. -/
theorem slots_overwrite_of_lastWritten (last : LastWritten changes slot x) (bound : slot < 16) :
    (d.overwrite changes).slots[slot] = x := by
  obtain ⟨earlier, later, rfl, untouched⟩ := last
  rw [overwrite_append, overwrite_cons, slots_overwrite_of_untouched untouched bound,
    slots_set _ bound, if_pos rfl]

theorem LastWritten.unique {y : Binary32} (first : LastWritten changes slot x)
    (second : LastWritten changes slot y) (bound : slot < 16) : x = y :=
  (slots_overwrite_of_lastWritten (d := default) first bound).symm.trans
    (slots_overwrite_of_lastWritten second bound)

/-- Paired diagnostics have pairs of data in their slots. -/
theorem getElem?_zip_eq_some_iff {other : Diagnostics} {y : Binary32} :
    (d.toList.zip other.toList)[slot]? = some (x, y) ↔
      ∃ _ : slot < 16, d.slots[slot] = x ∧ other.slots[slot] = y := by
  simp only [List.getElem?_zip_eq_some, toList, Vector.getElem?_toList, Vector.getElem?_eq_some_iff]
  constructor
  · rintro ⟨⟨bound, left⟩, _, right⟩
    exact ⟨bound, left, right⟩
  · rintro ⟨bound, left, right⟩
    exact ⟨⟨bound, left⟩, bound, right⟩

end Diagnostics

namespace Parity

open Diagnostics

variable {e : Expression} {actual : Diagnostics} {tolerance : Binary32} {slot : Nat}

/-- A slot is reported if its data disagree. -/
theorem mem_mismatches_iff : slot ∈ mismatches e actual tolerance ↔
    ∃ _ : slot < 16, agree (expected e).slots[slot] actual.slots[slot] tolerance = false := by
  simp only [mismatches, List.mem_map, List.mem_filter, Prod.exists, List.mem_zipIdx_iff_getElem?]
  constructor
  · rintro ⟨x, y, _, ⟨placed, apart⟩, rfl⟩
    obtain ⟨bound, rfl, rfl⟩ := getElem?_zip_eq_some_iff.mp placed
    exact ⟨bound, by simpa using apart⟩
  · rintro ⟨bound, apart⟩
    exact ⟨_, _, slot, ⟨getElem?_zip_eq_some_iff.mpr ⟨bound, rfl, rfl⟩, by simp [apart]⟩, rfl⟩

/-- Slots are reported in order, and none of them twice. -/
theorem mismatches_increasing (e : Expression) (actual : Diagnostics) (tolerance : Binary32) :
    (mismatches e actual tolerance).Pairwise (· < ·) := by
  unfold mismatches
  refine List.Pairwise.sublist (List.filter_sublist.map Prod.snd) ?_
  rw [List.zipIdx_map_snd]
  exact List.pairwise_lt_range'

/-- **The slots reported are the corrupted ones.**  Within a tolerance that is not below zero the slots in
which the expected diagnostics differ after changes are increasing; a slot is among them if the last datum
written to it does not agree with the expected one, and never if nothing was written to it. -/
theorem mismatches_overwrite (least : Binary32.zero.atMost tolerance = true) (e : Expression)
    (changes : List (Nat × Binary32)) :
    let reported := mismatches e ((expected e).overwrite changes) tolerance
    reported.Pairwise (· < ·) ∧
    (∀ slot, slot ∈ reported ↔ ∃ (_ : slot < 16) (x : Binary32),
      LastWritten changes slot x ∧ agree (expected e).slots[slot] x tolerance = false) ∧
    ∀ slot, Untouched changes slot → slot ∉ reported := by
  intro reported
  have corrupted (slot : Nat) : slot ∈ reported ↔ ∃ (_ : slot < 16) (x : Binary32),
      LastWritten changes slot x ∧ agree (expected e).slots[slot] x tolerance = false := by
    rw [mem_mismatches_iff]
    apply exists_congr
    intro bound
    constructor
    · intro apart
      rcases untouched_or_lastWritten changes slot with untouched | ⟨x, last⟩
      · rw [slots_overwrite_of_untouched untouched bound, agree_self least] at apart
        contradiction
      · rw [slots_overwrite_of_lastWritten last bound] at apart
        exact ⟨x, last, apart⟩
    · rintro ⟨x, last, apart⟩
      rwa [slots_overwrite_of_lastWritten last bound]
  refine ⟨mismatches_increasing _ _ _, corrupted, fun slot untouched reported => ?_⟩
  obtain ⟨_, _, last, _⟩ := (corrupted slot).mp reported
  exact untouched.not_lastWritten last

/-- The quotient of two zeros is no number.  A number written over it goes unreported once some NaN is
written back, while a sum is reported even if the expected zero was written to it before. -/
theorem mismatches_overwrite_undefined :
    let e : Expression := { operator := .divide, left := Binary32.zero, right := Binary32.zero }
    let nan : Binary32 := .ofBits 0xffc00001
    let changes := [(7, Binary32.one), (4, Binary32.zero), (7, nan), (4, Binary32.one)]
    let reported := mismatches e ((expected e).overwrite changes) Binary32.zero
    Binary32.zero.atMost Binary32.zero = true ∧ 4 ∈ reported ∧ 7 ∉ reported ∧ 8 ∉ reported := by
  intro e nan changes reported
  have agreed : agree (expected e).slots[7] nan Binary32.zero = true := by decide +kernel
  have least : Binary32.zero.atMost Binary32.zero = true := by decide
  obtain ⟨_, corrupted, kept⟩ := mismatches_overwrite least e changes
  have sum : LastWritten changes 4 Binary32.one := ⟨changes.dropLast, [], rfl, by simp [Untouched]⟩
  have quotient : LastWritten changes 7 nan :=
    ⟨changes.take 2, [(4, Binary32.one)], rfl, by simp [Untouched]⟩
  refine ⟨least, (corrupted 4).mpr ⟨by decide, _, sum, ?_⟩, fun member => ?_, ?_⟩
  · decide +kernel
  · obtain ⟨bound, x, last, apart⟩ := (corrupted 7).mp member
    obtain rfl := last.unique quotient bound
    exact Bool.false_ne_true (apart.symm.trans agreed)
  · exact kept 8 (by simp [Untouched, changes])

end Parity

end DualEval
