import DualEval.Proofs.DecimalRounding
import DualEval.Proofs.IntegralRounding
import Mathlib.Algebra.Order.Field.Basic
import Mathlib.Algebra.Order.Ring.Abs
import Mathlib.Tactic.Linarith

/-!
# Rounding to nearest

A code is the nearest to a number of units if no code names a magnitude closer to it, and of two that
are equally close it is the even one.  Infinity takes part at the magnitude that would follow the
greatest finite one, which is how overflow is decided: from half a place above the greatest finite
magnitude on, infinity is nearest.  There is exactly one nearest code
(`DualEval.Format.IsNearest.unique`), and rounding answers it (`DualEval.Format.isNearest_nearest`).
-/

namespace DualEval

namespace Format

variable (F : Format)

/-- A code is the nearest to a number of units, ties to even. -/
structure IsNearest (m : ℚ) (code : Nat) : Prop where
  bounded : code ≤ F.infinityCode
  closest : ∀ c ≤ F.infinityCode, |m - F.units code| ≤ |m - F.units c|
  even : ∀ c ≤ F.infinityCode, c ≠ code → |m - F.units code| = |m - F.units c| → 2 ∣ code

theorem two_dvd_fractionCount : 2 ∣ F.fractionCount :=
  dvd_pow_self 2 F.fractionBits_pos.ne'

/-- The code below a quotient, and the one of the two around it that is answered. -/
theorem nearest_between (num : Nat) {den : Nat} (positive : 0 < den) :
    ∃ floor rounded, F.units floor * den ≤ num ∧ num < F.units (floor + 1) * den ∧
      F.nearest num den = min F.infinityCode rounded ∧
      (2 * num < (F.units floor + F.units (floor + 1)) * den → rounded = floor) ∧
      ((F.units floor + F.units (floor + 1)) * den < 2 * num → rounded = floor + 1) ∧
      (2 * num = (F.units floor + F.units (floor + 1)) * den → rounded = floor + floor % 2) := by
  obtain ⟨normal, bounded⟩ := F.scale_spec num den
  have answer := F.nearest_eq_min num den
  generalize F.scale num den = scale at normal bounded answer
  have power := Nat.two_pow_pos scale
  have places : 0 < den * 2 ^ scale := Nat.mul_pos positive power
  have floor : num / (den * 2 ^ scale) = num / den / 2 ^ scale :=
    (Nat.div_div_eq_div_mul _ _ _).symm
  have leading : scale = 0 ∨ F.fractionCount ≤ num / (den * 2 ^ scale) := by
    rw [floor]
    exact normal.imp_right (Nat.le_div_iff_mul_le power).mpr
  have under : num / (den * 2 ^ scale) < 2 * F.fractionCount := by
    rw [floor]
    exact (Nat.div_lt_iff_lt_mul power).mpr bounded
  have split := Nat.div_add_mod num (den * 2 ^ scale)
  have rest := Nat.mod_lt num places
  rw [roundQuotient] at answer
  generalize num / (den * 2 ^ scale) = quotient at leading under split answer
  generalize num % (den * 2 ^ scale) = remainder at split rest answer
  have lower : F.units (scale * F.fractionCount + quotient) * den =
      den * 2 ^ scale * quotient := by
    rw [F.units_scaled leading under.le]
    ring
  have upper : F.units (scale * F.fractionCount + quotient + 1) * den =
      den * 2 ^ scale * quotient + den * 2 ^ scale := by
    rw [Nat.add_assoc, F.units_scaled (leading.imp_right Nat.le_succ_of_le) under, Nat.succ_mul]
    ring
  have parity : (scale * F.fractionCount + quotient) % 2 = quotient % 2 := by
    obtain ⟨half, whole⟩ := F.two_dvd_fractionCount
    rw [whole, Nat.mul_left_comm, Nat.mul_add_mod]
  refine ⟨scale * F.fractionCount + quotient, _, ?_, ?_, answer, ?_, ?_, ?_⟩
  · omega
  · omega
  · intro below
    rw [Nat.add_mul, lower, upper] at below
    rw [if_pos (by omega)]
  · intro above
    rw [Nat.add_mul, lower, upper] at above
    rw [if_neg (by omega), if_pos (by omega), Nat.add_assoc]
  · intro halfway
    rw [Nat.add_mul, lower, upper] at halfway
    rw [if_neg (by omega), if_neg (by omega), parity, Nat.add_assoc]

variable {F} {m : ℚ} {code other : Nat}

section Between

variable {floor : Nat} (lower : (F.units floor : ℚ) ≤ m) (upper : m < F.units (floor + 1))

include lower in
theorem distance_below {c : Nat} (low : c ≤ floor) : |m - F.units c| = m - F.units c := by
  have least : (F.units c : ℚ) ≤ F.units floor := by exact_mod_cast F.units_strictMono.monotone low
  exact abs_of_nonneg (by linarith)

include upper in
theorem distance_above {c : Nat} (high : floor < c) : |m - F.units c| = F.units c - m := by
  have most : (F.units (floor + 1) : ℚ) ≤ F.units c := by
    exact_mod_cast F.units_strictMono.monotone high
  rw [abs_sub_comm]
  exact abs_of_nonneg (by linarith)

include lower upper

/-- Every code but the two around a number is further off than the one on its side. -/
theorem distance_lt {c : Nat} (low : c ≠ floor) (high : c ≠ floor + 1) :
    m - F.units floor < |m - F.units c| ∨ F.units (floor + 1) - m < |m - F.units c| := by
  rcases Nat.lt_or_gt_of_ne low with less | greater
  · have apart : (F.units c : ℚ) < F.units floor := by exact_mod_cast F.units_strictMono less
    rw [distance_below lower less.le]
    exact .inl (by linarith)
  · have apart : (F.units (floor + 1) : ℚ) < F.units c := by
      exact_mod_cast F.units_strictMono (show floor + 1 < c by omega)
    rw [distance_above upper greater]
    exact .inr (by linarith)

/-- The closer one of the two codes around a number is the closest of all, and has an equal only where
the number lies halfway between the two. -/
theorem closest_of_between {pick : Nat}
    (side : pick = floor ∧ 2 * m ≤ F.units floor + F.units (floor + 1) ∨
      pick = floor + 1 ∧ F.units floor + F.units (floor + 1) ≤ 2 * m) (c : Nat) :
    |m - F.units pick| ≤ |m - F.units c| ∧ (c ≠ pick → |m - F.units pick| = |m - F.units c| →
      2 * m = F.units floor + F.units (floor + 1)) := by
  have atFloor : |m - F.units floor| = m - F.units floor := distance_below lower le_rfl
  have atNext : |m - F.units (floor + 1)| = F.units (floor + 1) - m :=
    distance_above upper (Nat.lt_succ_self floor)
  by_cases low : c = floor
  · subst low
    rcases side with ⟨rfl, _⟩ | ⟨rfl, _⟩
    · exact ⟨le_rfl, fun other => absurd rfl other⟩
    · rw [atFloor, atNext]
      exact ⟨by linarith, fun _ equal => by linarith⟩
  by_cases high : c = floor + 1
  · subst high
    rcases side with ⟨rfl, _⟩ | ⟨rfl, _⟩
    · rw [atFloor, atNext]
      exact ⟨by linarith, fun _ equal => by linarith⟩
    · exact ⟨le_rfl, fun other => absurd rfl other⟩
  have further := distance_lt lower upper low high
  rcases side with ⟨rfl, _⟩ | ⟨rfl, _⟩
  · rw [atFloor]
    rcases further with further | further
    · exact ⟨further.le, fun _ equal => absurd equal further.ne⟩
    · exact ⟨by linarith, fun _ equal => by linarith⟩
  · rw [atNext]
    rcases further with further | further
    · exact ⟨by linarith, fun _ equal => by linarith⟩
    · exact ⟨further.le, fun _ equal => absurd equal further.ne⟩

theorem isNearest_of_between {rounded : Nat}
    (down : 2 * m < F.units floor + F.units (floor + 1) → rounded = floor)
    (up : F.units floor + F.units (floor + 1) < 2 * m → rounded = floor + 1)
    (tie : 2 * m = F.units floor + F.units (floor + 1) → rounded = floor + floor % 2) :
    F.IsNearest m (min F.infinityCode rounded) := by
  have side : rounded = floor ∧ 2 * m ≤ F.units floor + F.units (floor + 1) ∨
      rounded = floor + 1 ∧ F.units floor + F.units (floor + 1) ≤ 2 * m := by
    rcases lt_trichotomy (2 * m) (F.units floor + F.units (floor + 1)) with less | equal | greater
    · exact .inl ⟨down less, less.le⟩
    · rcases Nat.mod_two_eq_zero_or_one floor with even | odd
      · exact .inl ⟨by rw [tie equal, even, Nat.add_zero], equal.le⟩
      · exact .inr ⟨by rw [tie equal, odd], equal.ge⟩
    · exact .inr ⟨up greater, greater.le⟩
  by_cases beyond : F.infinityCode ≤ floor
  · -- every code that takes part lies below the number, and infinity is the last of them
    have last : min F.infinityCode rounded = F.infinityCode := min_eq_left (by omega)
    rw [last]
    refine ⟨le_rfl, fun c bounded => ?_, fun c bounded other equal => ?_⟩
    · have least : (F.units c : ℚ) ≤ F.units F.infinityCode := by
        exact_mod_cast F.units_strictMono.monotone bounded
      rw [distance_below lower beyond, distance_below lower (bounded.trans beyond)]
      linarith
    · have apart : (F.units c : ℚ) < F.units F.infinityCode := by
        exact_mod_cast F.units_strictMono (lt_of_le_of_ne bounded other)
      rw [distance_below lower beyond, distance_below lower (bounded.trans beyond)] at equal
      linarith
  · have within : min F.infinityCode rounded = rounded := min_eq_right (by omega)
    have closest := closest_of_between lower upper side
    rw [within]
    refine ⟨by omega, fun c _ => (closest c).1, fun c _ other equal => ?_⟩
    rw [tie ((closest c).2 other equal)]
    omega

end Between

variable (F) in
/-- **Rounding answers the nearest code.** -/
theorem isNearest_nearest {num den : Nat} (positive : 0 < den) :
    F.IsNearest ((num : ℚ) / den) (F.nearest num den) := by
  obtain ⟨floor, rounded, lower, upper, answer, down, up, tie⟩ := F.nearest_between num positive
  have scale : (0 : ℚ) < den := by exact_mod_cast positive
  have least : (F.units floor : ℚ) ≤ num / den := by
    rw [le_div_iff₀ scale]
    exact_mod_cast lower
  have most : (num : ℚ) / den < F.units (floor + 1) := by
    rw [div_lt_iff₀ scale]
    exact_mod_cast upper
  rw [answer]
  apply isNearest_of_between least most
  · intro below
    rw [← mul_div_assoc, div_lt_iff₀ scale] at below
    exact down (by exact_mod_cast below)
  · intro above
    rw [← mul_div_assoc, lt_div_iff₀ scale] at above
    exact up (by exact_mod_cast above)
  · intro halfway
    rw [← mul_div_assoc, div_eq_iff scale.ne'] at halfway
    exact tie (by exact_mod_cast halfway)

theorem closer_iff {a b : ℚ} (less : a < b) : |m - a| ≤ |m - b| ↔ 2 * m ≤ a + b := by
  rw [← sq_le_sq]
  constructor <;> intro _ <;> nlinarith

theorem closer_iff' {a b : ℚ} (less : a < b) : |m - b| ≤ |m - a| ↔ a + b ≤ 2 * m := by
  rw [← sq_le_sq]
  constructor <;> intro _ <;> nlinarith

/-- The codes up to a given one are nearest below the middle between it and the next, and in the middle
if the given code is even. -/
theorem IsNearest.le_iff (nearest : F.IsNearest m code) {c : Nat} (finite : c < F.infinityCode) :
    code ≤ c ↔ 2 * m < F.units c + F.units (c + 1) ∨
      (2 * m = F.units c + F.units (c + 1) ∧ 2 ∣ c) := by
  constructor
  · intro low
    have most : (F.units code : ℚ) ≤ F.units c := by exact_mod_cast F.units_strictMono.monotone low
    have less : (F.units code : ℚ) < F.units (c + 1) := by
      exact_mod_cast F.units_strictMono (Nat.lt_succ_of_le low)
    have closest := nearest.closest (c + 1) finite
    rw [closer_iff less] at closest
    rcases lt_or_eq_of_le (show 2 * m ≤ F.units c + F.units (c + 1) by linarith) with below | middle
    · exact .inl below
    · have same : (F.units code : ℚ) = F.units c := by linarith
      obtain rfl : code = c := F.units_strictMono.injective (by exact_mod_cast same)
      refine .inr ⟨middle, nearest.even (code + 1) finite (by omega) (le_antisymm ?_ ?_)⟩
      · exact (closer_iff less).mpr middle.le
      · exact (closer_iff' less).mpr middle.ge
  · intro side
    by_contra high
    have least : (F.units (c + 1) : ℚ) ≤ F.units code := by
      exact_mod_cast F.units_strictMono.monotone (show c + 1 ≤ code by omega)
    have less : (F.units c : ℚ) < F.units code := by exact_mod_cast F.units_strictMono (by omega)
    have closest := nearest.closest c finite.le
    rw [closer_iff' less] at closest
    rcases side with below | ⟨middle, even⟩
    · linarith
    · have same : (F.units code : ℚ) = F.units (c + 1) := by linarith
      obtain rfl : code = c + 1 := F.units_strictMono.injective (by exact_mod_cast same)
      have odd := nearest.even c finite.le (by omega) (le_antisymm ?_ ?_)
      · omega
      · exact (closer_iff' less).mpr middle.ge
      · exact (closer_iff less).mpr middle.le

/-- Rounding to nearest is monotone. -/
theorem IsNearest.mono {m' : ℚ} (first : F.IsNearest m code) (second : F.IsNearest m' other)
    (le : m ≤ m') : code ≤ other := by
  rcases lt_or_eq_of_le second.bounded with finite | top
  · rw [first.le_iff finite]
    rcases (second.le_iff finite).mp le_rfl with below | ⟨middle, even⟩
    · exact .inl (by linarith)
    · rcases lt_or_eq_of_le le with less | rfl
      · exact .inl (by linarith)
      · exact .inr ⟨middle, even⟩
  · exact top ▸ first.bounded

/-- A number has one nearest code. -/
theorem IsNearest.unique (first : F.IsNearest m code) (second : F.IsNearest m other) :
    code = other :=
  le_antisymm (first.mono second le_rfl) (second.mono first le_rfl)

variable (F) in
theorem nearest_mono {num num' den : Nat} (positive : 0 < den) (le : num ≤ num') :
    F.nearest num den ≤ F.nearest num' den := by
  have quotients : (num : ℚ) / den ≤ num' / den := by gcongr
  exact (F.isNearest_nearest positive).mono (F.isNearest_nearest positive) quotients

end Format

/-- A magnitude under a sign. -/
def signed (negative : Bool) (magnitude : ℚ) : ℚ := if negative then -magnitude else magnitude

namespace Datum

variable {F : Format} {x y : Datum F} {m q : ℚ}

/-- The number that a datum denotes; an infinity stands where the number after the greatest finite one
would. -/
def number (x : Datum F) : ℚ := x.signedUnits / F.one

/-- A datum is the nearest to a number, ties to even. -/
structure IsNearest (q : ℚ) (x : Datum F) : Prop where
  number : x.isNaN = false
  closest : ∀ y : Datum F, y.isNaN = false → |q - x.number| ≤ |q - y.number|
  even : ∀ y : Datum F, y.isNaN = false → y.number ≠ x.number →
    |q - x.number| = |q - y.number| → 2 ∣ x.code

theorem number_eq (x : Datum F) : x.number = signed x.negative (x.units / F.one) := by
  rw [number, signedUnits, signed]
  split
  · rw [Int.cast_neg, Int.cast_natCast, neg_div]
  · rw [Int.cast_natCast]

theorem isNaN_eq_false_iff : x.isNaN = false ↔ x.code ≤ F.infinityCode := by
  rw [isNaN, decide_eq_false_iff_not, not_lt]

theorem one_cast_pos : (0 : ℚ) < F.one := by exact_mod_cast F.one_pos

theorem distance_signed (negative : Bool) (a b : ℚ) :
    |signed negative (a / F.one) - signed negative (b / F.one)| = |a - b| / F.one := by
  have scale := abs_of_pos (one_cast_pos (F := F))
  cases negative with
  | false =>
    simp only [signed, Bool.false_eq_true, if_false]
    rw [← sub_div, abs_div, scale]
  | true =>
    simp only [signed, if_true]
    rw [neg_sub_neg, ← sub_div, abs_div, scale, abs_sub_comm]

theorem distance_opposite {negative negative' : Bool} (opposite : negative ≠ negative') {a b : ℚ}
    (left : 0 ≤ a) (right : 0 ≤ b) :
    |signed negative (a / F.one) - signed negative' (b / F.one)| = (a + b) / F.one := by
  have total : 0 ≤ (a + b) / F.one := div_nonneg (add_nonneg left right) one_cast_pos.le
  cases negative <;> cases negative' <;> simp only [signed, if_true, Bool.false_eq_true, if_false]
  · contradiction
  · rw [sub_neg_eq_add, ← add_div, abs_of_nonneg total]
  · rw [← neg_add', ← add_div, abs_neg, abs_of_nonneg total]
  · contradiction

/-- Signs can only increase the distance of two magnitudes. -/
theorem distance_le_signed (negative negative' : Bool) {a b : ℚ} (left : 0 ≤ a) (right : 0 ≤ b) :
    |a - b| / F.one ≤ |signed negative (a / F.one) - signed negative' (b / F.one)| := by
  by_cases same : negative = negative'
  · rw [same, distance_signed]
  · rw [distance_opposite same left right, div_le_div_iff_of_pos_right one_cast_pos]
    exact abs_sub_le_of_nonneg_of_le left (by linarith) right (by linarith)

theorem code_eq_of_number (sign : x.negative = y.negative) (same : x.number = y.number) :
    x.code = y.code := by
  have distance := distance_signed (F := F) y.negative x.units y.units
  rw [← sign, ← number_eq, sign, ← number_eq, same, sub_self, abs_zero, eq_comm, div_eq_zero_iff,
    abs_eq_zero, sub_eq_zero] at distance
  have units : x.units = y.units := by exact_mod_cast distance.resolve_right one_cast_pos.ne'
  exact F.units_strictMono.injective units

/-- Under the sign of a number, the datum nearest to it has the code nearest to its magnitude. -/
theorem isNearest_iff (positive : 0 ≤ m) :
    x.IsNearest (signed x.negative (m / F.one)) ↔ F.IsNearest m x.code := by
  have scale := one_cast_pos (F := F)
  have own : |signed x.negative (m / F.one) - x.number| = |m - x.units| / F.one := by
    rw [number_eq, distance_signed]
  constructor
  · rintro ⟨known, closest, even⟩
    -- the data with the sign of the number name all codes
    let named (c : Nat) (bounded : c ≤ F.infinityCode) : Datum F :=
      ⟨x.negative, c, lt_of_le_of_lt bounded F.infinityCode_lt_codeLimit⟩
    have numbered {c : Nat} (bounded : c ≤ F.infinityCode) :
        |signed x.negative (m / F.one) - (named c bounded).number| = |m - F.units c| / F.one := by
      rw [number_eq]
      exact distance_signed x.negative m (F.units c)
    refine ⟨isNaN_eq_false_iff.mp known, fun c bounded => ?_, fun c bounded other equal => ?_⟩
    · have least := closest (named c bounded) (isNaN_eq_false_iff.mpr bounded)
      rw [own, numbered bounded] at least
      exact (div_le_div_iff_of_pos_right scale).mp least
    · apply even (named c bounded) (isNaN_eq_false_iff.mpr bounded)
      · exact fun same => other (code_eq_of_number (x := named c bounded) (y := x) rfl same)
      · rw [own, numbered bounded, units, equal]
  · rintro ⟨bounded, closest, even⟩
    have below (y : Datum F) :
        |m - y.units| / F.one ≤ |signed x.negative (m / F.one) - y.number| := by
      rw [number_eq]
      exact distance_le_signed x.negative y.negative positive y.units.cast_nonneg
    refine ⟨isNaN_eq_false_iff.mpr bounded, fun y known => ?_, fun y known other equal => ?_⟩
    · rw [own]
      refine le_trans ?_ (below y)
      exact (div_le_div_iff_of_pos_right scale).mpr (closest y.code (isNaN_eq_false_iff.mp known))
    · have least := closest y.code (isNaN_eq_false_iff.mp known)
      have most := below y
      rw [← equal, own, div_le_div_iff_of_pos_right scale] at most
      by_cases code : y.code = x.code
      · -- no closer to the opposite of a datum than to zero, so the datum is a zero, which is even
        have opposite : x.negative ≠ y.negative := by
          intro sign
          rw [eq_of_fields sign.symm code] at other
          contradiction
        have origin : |m - x.units| ≤ |m - F.units 0| := closest 0 (Nat.zero_le _)
        have same : y.units = x.units := congrArg F.units code
        have magnitude : (0 : ℚ) ≤ x.units := x.units.cast_nonneg
        rw [own, number_eq y, same, distance_opposite opposite positive magnitude,
          div_left_inj' scale.ne'] at equal
        rw [equal, F.units_zero, Nat.cast_zero, sub_zero, abs_of_nonneg positive] at origin
        have none : x.units = F.units 0 := by
          rw [F.units_zero]
          exact_mod_cast (show (x.units : ℚ) = 0 by linarith)
        rw [F.units_strictMono.injective none]
        exact dvd_zero 2
      · exact even y.code (isNaN_eq_false_iff.mp known) code (le_antisymm least most)

/-! ### Arithmetic on finite data -/

/-- A sum has the code nearest to the exact sum. -/
theorem code_add (left : x.isFinite = true) (right : y.isFinite = true) :
    (x.add y).code = F.nearest (x.signedUnits + y.signedUnits).natAbs 1 := by
  rw [add_of_isFinite left right]
  split
  case isTrue nothing =>
    rw [nothing, Int.natAbs_zero, F.nearest_eq_zero (by decide)]
    rfl
  case isFalse => rfl

theorem mul_of_isFinite (left : x.isFinite = true) (right : y.isFinite = true) :
    x.mul y = ofUnits F (x.negative != y.negative) (x.units * y.units) F.one := by
  simp only [mul, isNaN_of_isFinite left, isNaN_of_isFinite right, isInfinite_of_isFinite left,
    isInfinite_of_isFinite right, Bool.or_self, Bool.false_eq_true, if_false]
  rfl

end Datum

end DualEval
