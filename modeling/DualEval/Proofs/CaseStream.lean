import DualEval.Proofs.SampleRange
import DualEval.Proofs.SetAccount

/-!
# The cases of a seed

Cases are drawn one after the other from one stream of words, two words a case.  A case depends on its
own number only, so fewer cases are the beginning of more (`DualEval.Cases.generate_prefix`).  Operators
take turns, operands lie in the range of the samples, and all texts of both sets read back; hence no run
of the harness ends in a case (`DualEval.Cases.cases_of_seed`).
-/

namespace DualEval

/-- The next word of a stream, read from the place that has been reached. -/
def KeyStream.next (seed : UInt64) : StateM Nat UInt32 := fun place => (word seed place, place + 1)

namespace Sample

/-- The samples have a magnitude of at most a thousand. -/
def InRange (x : Binary32) : Prop := x.isFinite = true ∧ |x.number| ≤ 1000

theorem units_high : high.units = 1000 * binary32.one := by decide +kernel

theorem inRange_ofWord (w : UInt32) : InRange (ofWord w) := by
  refine ⟨(ofWord_range w).1, ?_⟩
  have bound : (ofWord w).units ≤ 1000 * binary32.one := by
    rw [← units_high]
    exact binary32.units_strictMono.monotone (code_ofWord_le w)
  have magnitude : |(ofWord w).number| = (ofWord w).units / binary32.one := by
    rw [Datum.number_eq, signed]
    split
    · rw [abs_neg, abs_of_nonneg (by positivity)]
    · rw [abs_of_nonneg (by positivity)]
  rw [magnitude, div_le_iff₀ Datum.one_cast_pos]
  exact_mod_cast bound

end Sample

namespace Cases

variable {seed : UInt64} {count : Nat}

/-! ### Drawing cases -/

/-- Draw the case of a number: the left operand takes the next word, the right one the one after. -/
def draw (seed : UInt64) (number : Nat) : StateM Nat Expression := do
  let left ← KeyStream.next seed
  let right ← KeyStream.next seed
  return {
    operator := Operator.all.getD (number % 4) .add
    left := Sample.ofWord left
    right := Sample.ofWord right }

/-- A case whose words come up at its own places is the one that its number stands for. -/
theorem draw_eq (seed : UInt64) (number : Nat) :
    (draw seed number).run (2 * number) = (random seed number, 2 * (number + 1)) := rfl

/-- Cases drawn in order from the place of the first are those that the numbers stand for. -/
theorem draw_range' (seed : UInt64) (first count : Nat) :
    ((List.range' first count).mapM (draw seed)).run (2 * first) =
      ((List.range' first count).map (random seed), 2 * (first + count)) := by
  induction count generalizing first with
  | zero => rfl
  | succ count ih =>
    rw [List.range'_succ, List.mapM_cons, List.map_cons]
    simp only [StateT.run_bind, StateT.run_pure, draw_eq]
    have rest := ih (first + 1)
    rw [Nat.add_right_comm, Nat.add_assoc] at rest
    exact congrArg (fun drawn : List Expression × Nat => (random seed first :: drawn.1, drawn.2)) rest

theorem draw_range (seed : UInt64) (count : Nat) :
    ((List.range count).mapM (draw seed)).run 0 = (generate count seed, 2 * count) := by
  have drawn := draw_range' seed 0 count
  rwa [← List.range_eq_range', Nat.zero_add] at drawn

/-! ### Numbered cases -/

theorem length_generate (count : Nat) (seed : UInt64) : (generate count seed).length = count := by
  rw [generate, List.length_map, List.length_range]

theorem getElem?_generate {number : Nat} {e : Expression}
    (found : (generate count seed)[number]? = some e) : e = random seed number := by
  rw [generate, List.getElem?_map, Option.map_eq_some_iff] at found
  obtain ⟨position, ranged, rfl⟩ := found
  obtain ⟨_, rfl⟩ := List.getElem?_eq_some_iff.mp ranged
  rw [List.getElem_range]

/-- Fewer cases are the beginning of more. -/
theorem generate_prefix {count' : Nat} (fewer : count ≤ count') :
    generate count seed = (generate count' seed).take count := by
  rw [generate, generate, ← List.map_take, List.take_range, Nat.min_eq_left fewer]

theorem operator_random (seed : UInt64) (number : Nat) :
    Operator.all[number % 4]? = some (random seed number).operator := by
  have inside : number % 4 < Operator.all.length := Nat.mod_lt _ (by decide)
  rw [random, List.getD_eq_getElem _ _ inside, List.getElem?_eq_getElem inside]

/-! ### Reading the texts -/

/-- The sets of a seed are read back to the expressions that they were written from, in order. -/
theorem parse_sets (count : Nat) (seed : UInt64) :
    (sets count seed).map (fun set => set.cases.map Expression.parse) =
      [(generate count seed).map .ok, stress.map .ok] := by
  have readBack {part : List Expression} (among : part ⊆ expressions count seed) :
      (part.map Expression.inputText).map Expression.parse = part.map .ok := by
    rw [List.map_map]
    apply List.map_congr_left
    intro e member
    rw [Function.comp_apply, parse_case (among member)]
  have drawn : generate count seed ⊆ expressions count seed := by
    rw [expressions]
    exact List.subset_append_left _ _
  have fixed : stress ⊆ expressions count seed := by
    rw [expressions]
    exact List.subset_append_right _ _
  rw [sets, List.map_cons, List.map_cons, List.map_nil, readBack drawn, readBack fixed]

end Cases

namespace Harness

open Evaluator

variable {σ : Type}

/-- Sets whose texts can all be read are run to their end. -/
theorem runSets_of_parsed (A : Accelerator σ) (tolerance : Binary32) (evaluator : Evaluator σ)
    {sets : List CaseSet}
    (parsed : ∀ set ∈ sets, ∀ text ∈ set.cases, ∃ e, Expression.parse text = .ok e) :
    ∃ labels, (runSets A tolerance sets evaluator).1 = .ok labels := by
  induction sets generalizing evaluator with
  | nil => exact ⟨[], rfl⟩
  | cons set sets ih =>
    obtain ⟨own, others⟩ := List.forall_mem_cons.mp parsed
    obtain ⟨results, answered, _⟩ := exists_evaluations A evaluator own
    obtain ⟨verdict, _⟩ := runSet_of_ended (sums_closingAccount tolerance answered).1
    obtain ⟨labels, ended⟩ := ih (runSet A tolerance set evaluator).evaluator others
    simp only [runSets, verdict, ended]
    exact ⟨_, rfl⟩

theorem runSets_cases (A : Accelerator σ) (tolerance : Binary32) (count : Nat) (seed : UInt64)
    (evaluator : Evaluator σ) :
    ∃ labels, (runSets A tolerance (Cases.sets count seed) evaluator).1 = .ok labels := by
  apply runSets_of_parsed
  intro set member text written
  have among : text ∈ (Cases.sets count seed).flatMap CaseSet.cases :=
    List.mem_flatMap.mpr ⟨set, member, written⟩
  rw [Cases.texts_eq] at among
  obtain ⟨e, source, rfl⟩ := List.mem_map.mp among
  exact ⟨e, Cases.parse_case source⟩

/-- A run with its options read fails for sets that were not clean, if it fails. -/
theorem failure_runOptions (A : Accelerator σ) (options : Options) (state : σ) :
    (runOptions A options state).failure = none ∨
      ∃ labels, (runOptions A options state).failure = some (unclean labels) := by
  unfold runOptions
  split
  · exact .inl rfl
  · obtain ⟨labels, ended⟩ := runSets_cases A options.tolerance options.count options.seed
      (Evaluator.start A { parityTolerance := options.tolerance } state).state
    simp only [ended]
    cases labels with
    | nil => exact .inl rfl
    | cons label labels => exact .inr ⟨_, rfl⟩

end Harness

/-- **The cases of a seed.**  There are as many as asked for, drawn in order from one stream; fewer are
the beginning of more; operators take turns in their order; operands are finite and of the range; the
texts of both sets read back to what they were written from, in order; and whatever the accelerator does,
a run of the harness goes through both sets and fails for sets that were not clean, if it fails. -/
theorem Cases.cases_of_seed (seed : UInt64) (count : Nat) :
    (generate count seed).length = count ∧
    ((List.range count).mapM (draw seed)).run 0 = (generate count seed, 2 * count) ∧
    (∀ count', count ≤ count' → generate count seed = (generate count' seed).take count) ∧
    (∀ number e, (generate count seed)[number]? = some e →
      Operator.all[number % 4]? = some e.operator ∧ e.reserved = Binary32.zero ∧
        Sample.InRange e.left ∧ Sample.InRange e.right) ∧
    (sets count seed).map (fun set => set.cases.map Expression.parse) =
      [(generate count seed).map .ok, stress.map .ok] ∧
    ∀ {σ : Type} (A : Accelerator σ) (tolerance : Binary32),
      (∀ evaluator : Evaluator σ,
        ∃ labels, (Harness.runSets A tolerance (sets count seed) evaluator).1 = .ok labels) ∧
      ∀ (skipDispatch : Bool) (state : σ),
        let outcome := Harness.runOptions A { count, seed, tolerance, skipDispatch } state
        outcome.failure = none ∨ ∃ labels, outcome.failure = some (Harness.unclean labels) := by
  refine ⟨length_generate count seed, draw_range seed count, fun _ => generate_prefix, ?_,
    parse_sets count seed, ?_⟩
  · intro number e found
    obtain rfl := getElem?_generate found
    exact ⟨operator_random seed number, rfl, Sample.inRange_ofWord _, Sample.inRange_ofWord _⟩
  · intro σ A tolerance
    exact ⟨Harness.runSets_cases A tolerance count seed,
      fun skipDispatch state => Harness.failure_runOptions A _ state⟩

end DualEval
