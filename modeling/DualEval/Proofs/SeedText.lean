import DualEval.Harness.Report
import DualEval.Proofs.Arguments
import Mathlib.Data.Nat.Digits.Lemmas

/-!
# The text of a seed

A text states a seed in hexadecimal digits behind a mark, or else in decimal digits; a plus may stand before
the digits.  Exactly the texts that state a number of one word are read, and the number is their seed
(`DualEval.Harness.readSeed_texts`).  Whatever a run shows of its seed is such a text, so that the run can
be asked for again.
-/

namespace DualEval

namespace Text

/-- A character is a digit of a radix up to sixteen, in one of the two letter cases, with this value. -/
def IsDigit (radix : Nat) (c : Char) (value : Nat) : Prop :=
  value < radix ∧ (c = Nat.digitChar value ∨ c = (Nat.digitChar value).toUpper)

/-- A row of digits, most significant first, denotes a number. -/
def Denotes (radix : Nat) (digits : List Char) (n : Nat) : Prop :=
  digits ≠ [] ∧ ∃ values, List.Forall₂ (IsDigit radix) digits values ∧
    n = Nat.ofDigits radix values.reverse

/-- A text is a row of digits that denotes a number, or a plus and such a row. -/
def States (radix : Nat) (text : List Char) (n : Nat) : Prop :=
  ∃ plus ∈ [[], ['+']], ∃ digits, text = plus ++ digits ∧ Denotes radix digits n

variable {radix n m value : Nat} {c : Char} {digits text : List Char}

/-! ### Digits and their values -/

theorem digitValue?_digitChar (small : value < 16) (within : value < radix) :
    digitValue? radix (Nat.digitChar value) = some value := by
  interval_cases value <;> simp [digitValue?, Nat.digitChar, within]

theorem digitValue?_toUpper_digitChar (small : value < 16) (within : value < radix) :
    digitValue? radix (Nat.digitChar value).toUpper = some value := by
  interval_cases value <;> simp [digitValue?, Nat.digitChar, within]

theorem digitChar_of_isDigit (digit : c.isDigit = true) : c = Nat.digitChar (c.toNat - '0'.toNat) := by
  obtain ⟨low, high⟩ := Decimal.toNat_of_isDigit digit
  apply Char.toNat_inj.mp
  generalize c.toNat = n at low high ⊢
  interval_cases n <;> rfl

theorem digitChar_of_isLower (lower : c.isLower = true) (small : c.toNat - 'a'.toNat + 10 < 16) :
    c = Nat.digitChar (c.toNat - 'a'.toNat + 10) := by
  have low : 97 ≤ c.toNat := by
    have least : 'a'.val ≤ c.val := of_decide_eq_true (Bool.and_eq_true_iff.mp lower).1
    exact UInt32.le_iff_toNat_le.mp least
  have high : c.toNat ≤ 102 := by
    change c.toNat - 97 + 10 < 16 at small
    omega
  apply Char.toNat_inj.mp
  generalize c.toNat = n at low high ⊢
  interval_cases n <;> rfl

theorem digitChar_of_isUpper (upper : c.isUpper = true) (small : c.toNat - 'A'.toNat + 10 < 16) :
    c = (Nat.digitChar (c.toNat - 'A'.toNat + 10)).toUpper := by
  have low : 65 ≤ c.toNat := by
    have least : 'A'.val ≤ c.val := (of_decide_eq_true upper).1
    exact UInt32.le_iff_toNat_le.mp least
  have high : c.toNat ≤ 70 := by
    change c.toNat - 65 + 10 < 16 at small
    omega
  apply Char.toNat_inj.mp
  generalize c.toNat = n at low high ⊢
  interval_cases n <;> rfl

/-- The digits are those characters that the reader takes for digits. -/
theorem digitValue?_eq_some_iff (narrow : radix ≤ 16) :
    digitValue? radix c = some value ↔ IsDigit radix c value := by
  constructor
  · intro known
    simp only [digitValue?, Option.ite_none_right_eq_some, Option.some.injEq] at known
    obtain ⟨within, rfl⟩ := known
    refine ⟨within, ?_⟩
    split_ifs at within ⊢ with digit lower upper
    · exact .inl (digitChar_of_isDigit digit)
    · exact .inl (digitChar_of_isLower lower (by omega))
    · exact .inr (digitChar_of_isUpper upper (by omega))
    · omega
  · rintro ⟨within, rfl | rfl⟩
    · exact digitValue?_digitChar (by omega) within
    · exact digitValue?_toUpper_digitChar (by omega) within

/-- The number that digit values spell is the sum of the values, each times its power of the radix. -/
theorem positional_eq_ofDigits (radix : Nat) (values : List Nat) :
    positional radix 0 values = Nat.ofDigits radix values.reverse := by
  rw [Nat.ofDigits_eq_foldr, List.foldr_reverse, positional]
  simp [Nat.mul_comm, Nat.add_comm]

theorem numeral_iff_denotes (narrow : radix ≤ 16) : Numeral radix digits n ↔ Denotes radix digits n := by
  have values : HaveValues radix = List.Forall₂ (IsDigit radix) :=
    congrArg List.Forall₂ (funext₂ fun _ _ => propext (digitValue?_eq_some_iff narrow))
  simp only [Numeral, Denotes, values, positional_eq_ofDigits]

theorem spellsInteger_iff_states (narrow : radix ≤ 16) :
    SpellsInteger radix text n ↔ States radix text n := by
  simp [SpellsInteger, States, numeral_iff_denotes narrow]

/-! ### One number at most -/

theorem Numeral.unique (first : Numeral radix digits n) (second : Numeral radix digits m) : n = m := by
  obtain ⟨_, values, row, rfl⟩ := first
  obtain ⟨_, values', row', rfl⟩ := second
  have same : values = values' :=
    Relator.RightUnique.forall₂ (fun _ _ _ known known' => Option.some.inj (known.symm.trans known'))
      row row'
  rw [same]

theorem States.unique (narrow : radix ≤ 16) (first : States radix text n)
    (second : States radix text m) : n = m := by
  rw [← spellsInteger_iff_states narrow, spellsInteger_iff] at first second
  exact first.unique second

/-! ### Written numbers -/

/-- Writing a number digit by digit, in either letter case, denotes it. -/
theorem denotes_toDigits {letterCase : Char → Char} (wide : 1 < radix)
    (cased : ∀ value < radix, IsDigit radix (letterCase (Nat.digitChar value)) value) (n : Nat) :
    Denotes radix ((Nat.toDigits radix n).map letterCase) n := by
  induction n using Nat.strong_induction_on with
  | _ n ih =>
    rw [Nat.toDigits_eq_if wide]
    split
    case isTrue small =>
      exact ⟨by simp, [n], .cons (cased n small) .nil, by simp⟩
    case isFalse large =>
      have least : n % radix < radix := Nat.mod_lt _ (by omega)
      obtain ⟨_, values, row, total⟩ := ih (n / radix) (Nat.div_lt_self (by omega) wide)
      refine ⟨by simp, values ++ [n % radix], ?_, ?_⟩
      · rw [List.map_append]
        exact List.rel_append row (.cons (cased _ least) .nil)
      · rw [List.reverse_append, List.reverse_singleton, List.singleton_append, Nat.ofDigits_cons, ← total]
        exact (Nat.mod_add_div n radix).symm

end Text

namespace Harness

variable {text : List Char} {n m : Nat} {seed : UInt64}

/-- The mark of hexadecimal digits. -/
def marks : List (List Char) := [['0', 'x'], ['0', 'X']]

theorem mem_marks {mark : List Char} : mark ∈ marks ↔ ∃ c, (c = 'x' ∨ c = 'X') ∧ mark = ['0', c] := by
  simp [marks]

/-- A text states a seed of any size: hexadecimal digits behind a mark, or decimal digits if it does not
begin with one. -/
def StatesSeed (text : List Char) (n : Nat) : Prop :=
  (∃ mark ∈ marks, ∃ rest, text = mark ++ rest ∧ Text.States 16 rest n) ∨
    ((∀ mark ∈ marks, ¬ mark <+: text) ∧ Text.States 10 text n)

/-- A text that states a number in decimal digits does not begin with a mark. -/
theorem unmarked_of_states (stated : Text.States 10 text n) : ∀ mark ∈ marks, ¬ mark <+: text := by
  have spelled := (Text.spellsInteger_iff_states (by decide)).mpr stated
  intro mark member
  rcases mem_marks.mp member with ⟨c, marked, rfl⟩
  rintro ⟨rest, rfl⟩
  exact not_spellsInteger_marked marked spelled

theorem spellsSeed_iff_statesSeed : SpellsSeed text seed ↔ StatesSeed text seed.toNat := by
  constructor
  · intro spelled
    cases spelled with
    | @hexadecimal mark digits n marked spelled small =>
      rw [UInt64.toNat_ofNat_of_lt' small]
      exact .inl ⟨_, mem_marks.mpr ⟨mark, marked, rfl⟩, digits, rfl,
        (Text.spellsInteger_iff_states (by decide)).mp spelled⟩
    | decimal spelled small =>
      rw [UInt64.toNat_ofNat_of_lt' small]
      have stated := (Text.spellsInteger_iff_states (by decide)).mp spelled
      exact .inr ⟨unmarked_of_states stated, stated⟩
  · rintro (⟨mark, member, rest, rfl, stated⟩ | ⟨_, stated⟩)
    · obtain ⟨c, marked, rfl⟩ := mem_marks.mp member
      rw [← UInt64.ofNat_toNat (x := seed)]
      exact .hexadecimal marked ((Text.spellsInteger_iff_states (by decide)).mpr stated) seed.toNat_lt
    · rw [← UInt64.ofNat_toNat (x := seed)]
      exact .decimal ((Text.spellsInteger_iff_states (by decide)).mpr stated) seed.toNat_lt

/-- A text states one number at most. -/
theorem StatesSeed.unique (first : StatesSeed text n) (second : StatesSeed text m) : n = m := by
  rcases first with ⟨mark, member, rest, rfl, stated⟩ | ⟨unmarked, stated⟩ <;>
    rcases second with ⟨mark', member', rest', same, stated'⟩ | ⟨unmarked', stated'⟩
  · obtain ⟨_, _, rfl⟩ := mem_marks.mp member
    obtain ⟨_, _, rfl⟩ := mem_marks.mp member'
    obtain ⟨_, rfl⟩ := List.append_inj same rfl
    exact stated.unique (by decide) stated'
  · exact absurd (List.prefix_append mark rest) (unmarked' mark member)
  · exact absurd ⟨rest', same.symm⟩ (unmarked mark' member')
  · exact stated.unique (by decide) stated'

theorem statesSeed_decimal (n : Nat) : StatesSeed (Nat.toDigits 10 n) n := by
  have digits : Text.Denotes 10 ((Nat.toDigits 10 n).map id) n :=
    Text.denotes_toDigits (by decide) (fun _ small => ⟨small, .inl rfl⟩) n
  rw [List.map_id] at digits
  have stated : Text.States 10 (Nat.toDigits 10 n) n := ⟨[], by simp, _, rfl, digits⟩
  exact .inr ⟨unmarked_of_states stated, stated⟩

theorem statesSeed_seedText (seed : UInt64) : StatesSeed (Cases.seedText seed).toList seed.toNat := by
  have digits : Text.Denotes 16 ((Nat.toDigits 16 seed.toNat).map Char.toUpper) seed.toNat :=
    Text.denotes_toDigits (by decide) (fun _ small => ⟨small, .inr rfl⟩) seed.toNat
  rw [Cases.seedText, String.toList_ofList]
  exact .inl ⟨['0', 'x'], by simp [marks], _, rfl, [], by simp, _, rfl, digits⟩

/-- **Seeds are read from exactly the texts that state one.**  A text states one number at most, and it is
refused if it states none of one word, be the number too large or none there at all.  The decimal text of a
seed states it, and so does the hexadecimal one, which a run shows in its first line and in the label of the
random set. -/
theorem readSeed_texts :
    (∀ text seed, readSeed text = .ok seed ↔ StatesSeed text seed.toNat) ∧
    (∀ text n m, StatesSeed text n → StatesSeed text m → n = m) ∧
    (∀ text, (∃ error, readSeed text = .error error) ↔ ∀ n, StatesSeed text n → UInt64.size ≤ n) ∧
    ∀ options : Options,
      let shown := Cases.seedText options.seed
      Report.header options = "Generating expression cases (random count=" ++
        toString options.count ++ ", seed=" ++ shown ++ ")" ∧
      (Cases.sets options.count options.seed).map CaseSet.label = ["random_" ++ shown, "stress_edges"] ∧
      readSeed shown.toList = .ok options.seed ∧
      readSeed (toString options.seed.toNat).toList = .ok options.seed := by
  have read (text : List Char) (seed : UInt64) :
      readSeed text = .ok seed ↔ StatesSeed text seed.toNat :=
    readSeed_eq_ok_iff.trans spellsSeed_iff_statesSeed
  refine ⟨read, fun _ _ _ => StatesSeed.unique, fun text => ?_, fun options => ?_⟩
  · constructor
    · rintro ⟨error, refused⟩ n stated
      by_contra small
      rw [not_le] at small
      have accepted := (read text (UInt64.ofNat n)).mpr (by rwa [UInt64.toNat_ofNat_of_lt' small])
      rw [refused] at accepted
      contradiction
    · intro large
      cases known : readSeed text with
      | error error => exact ⟨error, rfl⟩
      | ok seed => exact absurd (large _ ((read text seed).mp known)) (not_le.mpr seed.toNat_lt)
  · refine ⟨rfl, rfl, (read _ _).mpr (statesSeed_seedText options.seed), (read _ _).mpr ?_⟩
    rw [Nat.toString_eq_repr, Nat.toList_repr]
    exact statesSeed_decimal options.seed.toNat

end Harness

end DualEval
