import DualEval.Harness.Options
import DualEval.Proofs.NumberGrammar

/-!
# The grammar of arguments

An argument is an option with its value, or a flag, and asks for one setting.  Arguments are accepted
exactly if each of them is well-formed by itself, whatever stands beside it, and then the last one of a
kind decides (`DualEval.Harness.Options.read_eq_ok_iff`).
-/

namespace DualEval

namespace Harness

/-- A text spells a seed of one word: hexadecimal digits behind a mark, or decimal digits. -/
inductive SpellsSeed : List Char → UInt64 → Prop where
  | hexadecimal {mark : Char} {digits : List Char} {n : Nat} : mark = 'x' ∨ mark = 'X' →
      Text.SpellsInteger 16 digits n → n < Text.wordLimit →
      SpellsSeed ('0' :: mark :: digits) (UInt64.ofNat n)
  | decimal {digits : List Char} {n : Nat} : Text.SpellsInteger 10 digits n → n < Text.wordLimit →
      SpellsSeed digits (UInt64.ofNat n)

/-- What an argument asks for. -/
inductive Setting where
  | count (n : Nat)
  | seed (word : UInt64)
  | tolerance (bound : Binary32)
  | skipDispatch
deriving DecidableEq

/-- An argument is well-formed and asks for a setting. -/
inductive Asks : String → Setting → Prop where
  | count {value : List Char} {n : Nat} : Text.SpellsInteger 10 value n → n < Text.wordLimit →
      Asks ("--count=" ++ String.ofList value) (.count n)
  | seed {value : List Char} {seed : UInt64} : SpellsSeed value seed →
      Asks ("--seed=" ++ String.ofList value) (.seed seed)
  | tolerance {value : List Char} {tolerance : Binary32} :
      Decimal.SpellsDatum binary32 value tolerance →
      Asks ("--tolerance=" ++ String.ofList value) (.tolerance tolerance)
  | skipDispatch : Asks "--skip-dispatch" .skipDispatch

namespace Setting

def count? : Setting → Option Nat
  | .count n => some n
  | _ => none

def seed? : Setting → Option UInt64
  | .seed word => some word
  | _ => none

def tolerance? : Setting → Option Binary32
  | .tolerance bound => some bound
  | _ => none

end Setting

/-- The last value among settings that one kind of setting gives. -/
def lastOf {α : Type} (value? : Setting → Option α) (settings : List Setting) : Option α :=
  (settings.filterMap value?).getLast?

namespace Options

/-- The options with one setting changed. -/
def change (options : Options) : Setting → Options
  | .count count => { options with count }
  | .seed seed => { options with seed }
  | .tolerance tolerance => { options with tolerance }
  | .skipDispatch => { options with skipDispatch := true }

/-- The options that settings amount to: the last of a kind, or else the default. -/
def chosen (settings : List Setting) : Options :=
  let default : Options := {}
  { count := (lastOf Setting.count? settings).getD default.count
    seed := (lastOf Setting.seed? settings).getD default.seed
    tolerance := (lastOf Setting.tolerance? settings).getD default.tolerance
    skipDispatch := decide (.skipDispatch ∈ settings) }

end Options

variable {text value : List Char} {argument : String} {options result : Options}

/-! ### Seeds -/

/-- A marked seed is not a row of decimal digits. -/
theorem not_spellsInteger_marked {mark : Char} (marked : mark = 'x' ∨ mark = 'X') {n : Nat} :
    ¬ Text.SpellsInteger 10 ('0' :: mark :: text) n := by
  intro spelled
  obtain ⟨_, values, row, _⟩ := Text.spellsInteger_iff.mp spelled
  obtain ⟨_, _, _, rest, _⟩ := List.forall₂_cons_left_iff.mp row
  obtain ⟨_, _, known, _⟩ := List.forall₂_cons_left_iff.mp rest
  rcases marked with rfl | rfl
  · exact absurd known (by simp [Text.digitValue?])
  · exact absurd known (by simp [Text.digitValue?])

theorem readWord_eq_ok_iff {radix n : Nat} (positive : 0 < radix) :
    Text.readInteger radix Text.wordLimit text = .ok n ↔
      Text.SpellsInteger radix text n ∧ n < Text.wordLimit :=
  Text.readInteger_eq_ok_iff positive (by decide)

variable {seed : UInt64}

theorem readSeed_marked {mark : Char} (marked : mark = 'x' ∨ mark = 'X') :
    readSeed ('0' :: mark :: text) = .ok seed ↔
      ∃ n, Text.readInteger 16 Text.wordLimit text = .ok n ∧ seed = UInt64.ofNat n := by
  rcases marked with rfl | rfl
  all_goals
    simp only [readSeed]
    cases Text.readInteger 16 Text.wordLimit text <;> simp [eq_comm]

theorem readSeed_unmarked
    (unmarked : ∀ mark rest, mark = 'x' ∨ mark = 'X' → text ≠ '0' :: mark :: rest) :
    readSeed text = .ok seed ↔
      ∃ n, Text.readInteger 10 Text.wordLimit text = .ok n ∧ seed = UInt64.ofNat n := by
  rw [readSeed]
  · cases Text.readInteger 10 Text.wordLimit text <;> simp [eq_comm]
  · exact fun rest => unmarked 'x' rest (.inl rfl)
  · exact fun rest => unmarked 'X' rest (.inr rfl)

/-- Seeds are read from exactly the texts that spell one. -/
theorem readSeed_eq_ok_iff : readSeed text = .ok seed ↔ SpellsSeed text seed := by
  by_cases marked : ∃ mark rest, (mark = 'x' ∨ mark = 'X') ∧ text = '0' :: mark :: rest
  · obtain ⟨mark, digits, marked, rfl⟩ := marked
    simp only [readSeed_marked marked, readWord_eq_ok_iff (show 0 < 16 by decide)]
    constructor
    · rintro ⟨n, ⟨spelled, small⟩, rfl⟩
      exact .hexadecimal marked spelled small
    · intro spelled
      cases spelled with
      | hexadecimal _ spelled small => exact ⟨_, ⟨spelled, small⟩, rfl⟩
      | decimal spelled _ => exact absurd spelled (not_spellsInteger_marked marked)
  · have unmarked (mark : Char) (rest : List Char) (mark' : mark = 'x' ∨ mark = 'X') :
        text ≠ '0' :: mark :: rest := fun shape => marked ⟨mark, rest, mark', shape⟩
    simp only [readSeed_unmarked unmarked, readWord_eq_ok_iff (show 0 < 10 by decide)]
    constructor
    · rintro ⟨n, ⟨spelled, small⟩, rfl⟩
      exact .decimal spelled small
    · intro spelled
      cases spelled with
      | hexadecimal mark' _ _ => exact absurd rfl (unmarked _ _ mark')
      | decimal spelled small => exact ⟨_, ⟨spelled, small⟩, rfl⟩

/-! ### One argument -/

theorem after?_eq_some_iff {start rest : List Char} :
    after? start text = some rest ↔ text = start ++ rest := by
  fun_induction after? start text with
  | case1 text => simp [eq_comm]
  | case2 => simp
  | case3 start text c ih => simp [ih]
  | case4 c start d text differ => simp [Ne.symm differ]

theorem after?_toList {start : String} :
    after? start.toList argument.toList = some value ↔ argument = start ++ String.ofList value := by
  rw [after?_eq_some_iff, ← String.toList_inj, String.toList_append, String.toList_ofList]

namespace Options

/-- How an argument that has been taken apart was written. -/
def Argument.written : Argument → Option String
  | .count value => some ("--count=" ++ String.ofList value)
  | .seed value => some ("--seed=" ++ String.ofList value)
  | .tolerance value => some ("--tolerance=" ++ String.ofList value)
  | .skipDispatch => some "--skip-dispatch"
  | .unrecognized => none

theorem classify_written (kind : Argument) (written : kind.written = some argument) :
    classify argument = kind := by
  cases kind with
  | unrecognized => contradiction
  | skipDispatch =>
    obtain rfl := Option.some.inj written
    simp [classify, after?]
  | _ value =>
    obtain rfl := Option.some.inj written
    simp [classify, after?]

theorem written_classify (argument : String) :
    classify argument = .unrecognized ∨ (classify argument).written = some argument := by
  simp only [classify]
  split
  case h_1 value known => exact .inr (congrArg some (after?_toList.mp known).symm)
  case h_2 value _ known => exact .inr (congrArg some (after?_toList.mp known).symm)
  case h_3 value _ _ known => exact .inr (congrArg some (after?_toList.mp known).symm)
  case h_4 =>
    split
    case isTrue flag => exact .inr (congrArg some flag.symm)
    case isFalse => exact .inl rfl

theorem accept_eq_ok_iff :
    options.accept argument = .ok result ↔
      ∃ setting, Asks argument setting ∧ result = options.change setting := by
  constructor
  · intro accepted
    unfold accept at accepted
    rcases written_classify argument with none | written
    · rw [none] at accepted
      contradiction
    · generalize classify argument = kind at written accepted
      cases kind with
      | unrecognized => contradiction
      | skipDispatch =>
        obtain rfl := Option.some.inj written
        exact ⟨_, .skipDispatch, (Except.ok.inj accepted).symm⟩
      | count value =>
        obtain rfl := Option.some.inj written
        cases known : Text.readInteger 10 Text.wordLimit value with
        | error cause => simp [known] at accepted
        | ok n =>
          simp only [known, Except.ok.injEq] at accepted
          obtain ⟨spelled, small⟩ := (readWord_eq_ok_iff (by decide)).mp known
          exact ⟨_, .count spelled small, accepted.symm⟩
      | seed value =>
        obtain rfl := Option.some.inj written
        cases known : readSeed value with
        | error cause => simp [known] at accepted
        | ok seed =>
          simp only [known, Except.ok.injEq] at accepted
          exact ⟨_, .seed (readSeed_eq_ok_iff.mp known), accepted.symm⟩
      | tolerance value =>
        obtain rfl := Option.some.inj written
        cases known : Decimal.readNumber binary32 value with
        | error cause => simp [known] at accepted
        | ok tolerance =>
          simp only [known, Except.ok.injEq] at accepted
          exact ⟨_, .tolerance (Decimal.readNumber_eq_ok_iff.mp known), accepted.symm⟩
  · rintro ⟨setting, asks, rfl⟩
    cases asks with
    | skipDispatch => rw [accept, classify_written .skipDispatch rfl, change]
    | @count value n spelled small =>
      have known := (readWord_eq_ok_iff (by decide)).mpr ⟨spelled, small⟩
      rw [accept, classify_written (.count value) rfl]
      simp only [known, change]
    | @seed value seed spelled =>
      have known := readSeed_eq_ok_iff.mpr spelled
      rw [accept, classify_written (.seed value) rfl]
      simp only [known, change]
    | @tolerance value tolerance spelled =>
      have known := Decimal.readNumber_eq_ok_iff.mpr spelled
      rw [accept, classify_written (.tolerance value) rfl]
      simp only [known, change]

/-! ### All arguments -/

variable {arguments : List String} {settings : List Setting}

theorem readFrom_eq_ok_iff :
    readFrom options arguments = .ok result ↔
      ∃ settings, List.Forall₂ Asks arguments settings ∧ result = settings.foldl change options := by
  induction arguments generalizing options with
  | nil => simp [readFrom, eq_comm]
  | cons argument arguments ih =>
    rw [readFrom]
    constructor
    · intro read
      cases first : options.accept argument with
      | error error => simp [first] at read
      | ok next =>
        obtain ⟨setting, asks, rfl⟩ := accept_eq_ok_iff.mp first
        simp only [first] at read
        obtain ⟨settings, rest, rfl⟩ := ih.mp read
        exact ⟨setting :: settings, .cons asks rest, rfl⟩
    · rintro ⟨settings, row, rfl⟩
      cases row with
      | cons asks rest =>
        simp only [accept_eq_ok_iff.mpr ⟨_, asks, rfl⟩]
        exact ih.mpr ⟨_, rest, rfl⟩

theorem mem_of_skipDispatch_mem (asked : List.Forall₂ Asks arguments settings)
    (skips : .skipDispatch ∈ settings) : "--skip-dispatch" ∈ arguments := by
  induction asked with
  | nil => contradiction
  | cons asks _ ih =>
    rcases List.mem_cons.mp skips with rfl | later
    · cases asks
      exact List.mem_cons_self
    · exact List.mem_cons_of_mem _ (ih later)

/-- Changes one after the other come to the last of each kind. -/
theorem foldl_change :
    settings.foldl change options =
      { count := (lastOf Setting.count? settings).getD options.count
        seed := (lastOf Setting.seed? settings).getD options.seed
        tolerance := (lastOf Setting.tolerance? settings).getD options.tolerance
        skipDispatch := options.skipDispatch || decide (.skipDispatch ∈ settings) } := by
  induction settings generalizing options with
  | nil => simp [lastOf]
  | cons setting settings ih =>
    rw [List.foldl_cons, ih]
    cases setting <;>
      simp [lastOf, change, List.getLast?_cons, Setting.count?, Setting.seed?, Setting.tolerance?]

/-- **Arguments are accepted exactly if each of them is well-formed by itself**, and the last of a
kind decides. -/
theorem read_eq_ok_iff :
    read arguments = .ok result ↔
      ∃ settings, List.Forall₂ Asks arguments settings ∧ result = chosen settings := by
  rw [read, readFrom_eq_ok_iff]
  simp only [foldl_change, chosen, Bool.false_or]

/-- The last count decides; an earlier one still has to be well-formed. -/
example : read ["--count=1", "--seed=0xAB", "--count=+2"] = .ok { count := 2, seed := 171 } ∧
    read ["--count=-1", "--count=2"] = .error (.count .invalidDigit) := by
  decide +kernel

end Options

end Harness

end DualEval
