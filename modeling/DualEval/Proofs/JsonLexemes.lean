import DualEval.Json.Lexeme
import DualEval.Json.Printer
import DualEval.Proofs.DecimalText
import Mathlib.Tactic.IntervalCases

/-!
# Cutting written JSON

Strings, exact integers and names are cut off the front of a text as they were written, whatever stands after
them.  A string may hold any characters; a number and a name have to end where the next lexeme starts.
-/

namespace DualEval.Json

open Lexeme

variable {text rest : List Char} {following : List Lexeme}

/-! ### Strings -/

/-- The ways a character may stand in a string. -/
inductive Escape (c : Char) : List Char → Prop where
  | short {mark : Char} (other : mark ≠ 'u') (known : escape? mark = some c) : Escape c ['\\', mark]
  | code (low : c.toNat < 32) : Escape c ('\\' :: 'u' :: '0' :: '0' :: controlDigits c)
  | plain (unquoted : c ≠ '"') (unmarked : c ≠ '\\') (visible : 32 ≤ c.toNat) : Escape c [c]

theorem escape_escaped (c : Char) : Escape c (escaped c) := by
  unfold escaped
  split_ifs with quote backslash newline carriage tab backspace feed low
  · subst quote; exact .short (by decide) rfl
  · subst backslash; exact .short (by decide) rfl
  · subst newline; exact .short (by decide) rfl
  · subst carriage; exact .short (by decide) rfl
  · subst tab; exact .short (by decide) rfl
  · subst backspace; exact .short (by decide) rfl
  · subst feed; exact .short (by decide) rfl
  · exact .code low
  · exact .plain quote backslash (by omega)

theorem hexWord?_controlDigits {c : Char} (low : c.toNat < 32) :
    hexWord? ('0' :: '0' :: controlDigits c) = some c.toNat := by
  unfold controlDigits
  generalize c.toNat = n at low
  interval_cases n <;> rfl

/-- Four letters after an escape mark are the digits of a code. -/
def WellEscaped (text : List Char) : Prop :=
  ∀ e f g h rest, text = '\\' :: 'u' :: e :: f :: g :: h :: rest → ∃ code, hexWord? [e, f, g, h] = some code

theorem wellEscaped_flatMap (text rest : List Char) : WellEscaped (text.flatMap escaped ++ '"' :: rest) := by
  cases text with
  | nil => simp [WellEscaped]
  | cons c text =>
    intro e f g h following same
    have kind := escape_escaped c
    rw [List.flatMap_cons] at same
    generalize escaped c = letters at kind same
    cases kind with
    | short other => simp [other] at same
    | code low =>
      simp only [controlDigits, List.cons_append, List.cons.injEq, true_and] at same
      obtain ⟨rfl, rfl, rfl, rfl, -⟩ := same
      exact ⟨_, hexWord?_controlDigits low⟩
    | plain _ unmarked _ => simp [unmarked] at same

/-- A code below the surrogates stands for itself, whatever code follows. -/
theorem readString_code (collected : List Char) {a b c d : Char} {code : Nat}
    (word : hexWord? [a, b, c, d] = some code) (low : code < 0xD800) (following : WellEscaped rest) :
    readString collected ('\\' :: 'u' :: a :: b :: c :: d :: rest) =
      readString (Char.ofNat code :: collected) rest := by
  by_cases paired : ∃ e f g h after, rest = '\\' :: 'u' :: e :: f :: g :: h :: after
  · obtain ⟨e, f, g, h, after, rfl⟩ := paired
    obtain ⟨next, word'⟩ := following e f g h after rfl
    have single : ofSurrogates? code next = none := if_neg (by omega)
    simp only [readString.eq_2, word, word', single]
    exact if_neg (by omega)
  · rw [readString.eq_3 _ _ _ _ _ _ fun e f g h after same => paired ⟨e, f, g, h, after, same⟩, word]
    exact if_neg (by omega)

theorem readString_escaped (collected : List Char) (c : Char) (following : WellEscaped rest) :
    readString collected (escaped c ++ rest) = readString (c :: collected) rest := by
  have kind := escape_escaped c
  generalize escaped c = letters at kind
  cases kind with
  | short other known => simp [readString, other, known]
  | code low =>
    have back := readString_code collected (hexWord?_controlDigits low) (by omega) following
    rwa [Char.ofNat_toNat] at back
  | plain unquoted unmarked visible => simp [readString, unmarked, visible]

theorem readString_quoted (collected text rest : List Char) :
    readString collected (text.flatMap escaped ++ '"' :: rest) =
      some (String.ofList (collected.reverse ++ text), rest) := by
  induction text generalizing collected with
  | nil => simp [readString]
  | cons c text ih =>
    rw [List.flatMap_cons, List.append_assoc,
      readString_escaped collected c (wellEscaped_flatMap text rest), ih]
    simp

/-! ### Integers -/

/-- No zero leads the digits of a number, unless it is the only one. -/
theorem toDigits_of_leading_zero (n : Nat) (zero : (Nat.toDigits 10 n).head? = some '0') :
    Nat.toDigits 10 n = ['0'] := by
  induction n using Nat.strong_induction_on with
  | _ n ih =>
    rw [Nat.toDigits_eq_if (by decide)] at zero ⊢
    split at zero
    case isTrue small =>
      simp only [small, ↓reduceIte]
      exact congrArg (fun c => [c]) (Option.some.inj zero)
    case isFalse large =>
      have leading : (Nat.toDigits 10 (n / 10)).head? = some '0' := by
        rwa [List.head?_append_of_ne_nil _ Nat.toDigits_ne_nil] at zero
      have single := congrArg Decimal.digitsValue (ih (n / 10) (by omega) leading)
      rw [Decimal.digitsValue_toDigits] at single
      have vanishes : n / 10 = 0 := single
      omega

/-- The digits of a number and an optional minus are read as the number they spell. -/
theorem numberOf?_of_digits (negative : Bool) {n : Nat} (signed : negative = true → n ≠ 0)
    (exact' : isExact (if negative then -n else n) = true) :
    numberOf? ((if negative then ['-'] else []) ++ Nat.toDigits 10 n) =
      some (integer (if negative then -n else n)) := by
  have ended : ∀ c ∈ ([] : List Char).head?, c.isDigit = false := by simp
  obtain ⟨taken, dropped⟩ := Decimal.takeWhile_digits (Decimal.digits_toDigits n) ended
  rw [List.append_nil] at taken dropped
  have unmarked : (Nat.toDigits 10 n).head? ≠ some '-' := fun head => by
    simpa using Decimal.digits_toDigits n '-' (List.mem_of_mem_head? head)
  have led := toDigits_of_leading_zero n
  cases negative with
  | false =>
    simp only [Bool.false_eq_true, ↓reduceIte] at exact' ⊢
    simpa [numberOf?, unmarked, taken, dropped, Decimal.digitsValue_toDigits, exact'] using led
  | true =>
    simp only [↓reduceIte] at exact' ⊢
    simpa [numberOf?, taken, dropped, Decimal.digitsValue_toDigits, exact', signed rfl] using led

theorem numberOf?_integerText {n : Int} (exact' : isExact n = true) :
    numberOf? (Decimal.integerText n) = some (integer n) := by
  rcases lt_or_ge n 0 with negative | positive
  · obtain ⟨m, rfl⟩ : ∃ m : Nat, n = -m := ⟨n.natAbs, by omega⟩
    rw [Decimal.integerText, if_pos negative, Int.natAbs_neg, Int.natAbs_natCast]
    exact numberOf?_of_digits true (by omega) exact'
  · obtain ⟨m, rfl⟩ := Int.eq_ofNat_of_zero_le positive
    rw [Decimal.integerText, if_neg (by omega), Int.natAbs_natCast]
    exact numberOf?_of_digits false (by simp) exact'

theorem isNumberLetter_of_integerText (n : Int) : ∀ c ∈ Decimal.integerText n, isNumberLetter c = true := by
  intro c member
  have digit : c = '-' ∨ c ∈ Nat.toDigits 10 n.natAbs := by
    unfold Decimal.integerText at member
    split at member
    · exact List.mem_cons.mp member
    · exact .inr member
  rcases digit with rfl | member
  · rfl
  · simp [isNumberLetter, Decimal.digits_toDigits n.natAbs c member]

/-! ### Cutting a text into lexemes -/

/-- A text falls into lexemes: one at its front, then those of what is left. -/
inductive Cut : List Char → List Lexeme → Prop where
  | done : Cut [] []
  | first {c : Char} {rest after : List Char} {lexeme : Lexeme} {following : List Lexeme}
      (visible : isSpace c = false) (read : readFirst c rest = some (lexeme, after))
      (shorter : after.length ≤ rest.length) (others : Cut after following) :
      Cut (c :: rest) (lexeme :: following)

theorem scan_of_cut (cut : Cut text following) {budget : Nat} (enough : text.length < budget) :
    scan budget text = some following := by
  induction cut generalizing budget with
  | done =>
    obtain ⟨budget, rfl⟩ := Nat.exists_eq_add_of_lt enough
    simp [scan]
  | first visible read shorter _ ih =>
    obtain ⟨budget, rfl⟩ : ∃ less, budget = less + 1 := ⟨budget - 1, by omega⟩
    rw [List.length_cons] at enough
    have left : scan budget _ = some _ := ih (by omega)
    simp [scan, visible, read, left]

/-- Neither a number nor a name goes on here. -/
def Ended (text : List Char) : Prop := ∀ c ∈ text.head?, isNumberLetter c = false ∧ c.isLower = false

theorem ended_cons {c : Char} (number : isNumberLetter c = false) (name : c.isLower = false) :
    Ended (c :: rest) := by
  rintro _ ⟨⟩
  exact ⟨number, name⟩

theorem cut_mark {c : Char} {mark : Lexeme} (known : punctuation? c = some mark) (others : Cut rest following) :
    Cut (c :: rest) (mark :: following) := by
  have visible : isSpace c = false := by
    unfold punctuation? at known
    split at known
    case h_7 => contradiction
    all_goals rfl
  exact .first visible (by simp [readFirst, known]) le_rfl others

theorem cut_quoted (s : String) (others : Cut rest following) :
    Cut (quoted s ++ rest) (.atom (.text s) :: following) := by
  have read := readString_quoted [] s.toList rest
  have apart : quoted s ++ rest = '"' :: (s.toList.flatMap escaped ++ '"' :: rest) := by simp [quoted]
  rw [apart]
  refine .first rfl ?_ ?_ others
  · simp [readFirst, punctuation?, read]
  · simp only [List.length_append, List.length_cons]
    omega

theorem cut_number {word : List Char} {value : Json} (letters : ∀ c ∈ word, isNumberLetter c = true)
    (read : numberOf? word = some value) (ended : Ended rest) (others : Cut rest following) :
    Cut (word ++ rest) (.atom value :: following) := by
  obtain ⟨taken, dropped⟩ := Decimal.takeWhile_word letters fun c member => (ended c member).1
  cases word with
  | nil => simp [numberOf?] at read
  | cons c word =>
    have letter := letters c (List.mem_cons_self ..)
    have visible : isSpace c = false := by
      refine Bool.eq_false_iff.mpr fun space => ?_
      simp only [isSpace, Bool.or_eq_true, decide_eq_true_eq] at space
      rcases space with ((rfl | rfl) | rfl) | rfl <;> exact absurd letter (by decide)
    have unmarked : punctuation? c = none := by
      unfold punctuation?
      split <;> simp_all [isNumberLetter]
    have unquoted : c ≠ '"' := by
      rintro rfl
      exact absurd letter (by decide)
    refine .first visible ?_ ?_ others
    · rw [List.cons_append] at taken dropped
      simp [readFirst, unmarked, unquoted, letter, taken, dropped, read]
    · simp

theorem cut_name {word : List Char} {value : Json} (read : nameOf? word = some value) (ended : Ended rest)
    (others : Cut rest following) : Cut (word ++ rest) (.atom value :: following) := by
  have names : word = ['n', 'u', 'l', 'l'] ∨ word = ['t', 'r', 'u', 'e'] ∨
      word = ['f', 'a', 'l', 's', 'e'] := by
    unfold nameOf? at read
    split_ifs at read with isNull isTrue isFalse
    · exact .inl isNull
    · exact .inr (.inl isTrue)
    · exact .inr (.inr isFalse)
  have letters : ∀ c ∈ word, c.isLower = true := by
    rcases names with rfl | rfl | rfl <;> exact List.all_eq_true.mp rfl
  have start : ∃ c tail, word = c :: tail ∧ isSpace c = false ∧ punctuation? c = none ∧ c ≠ '"' ∧
      isNumberLetter c = false := by
    rcases names with rfl | rfl | rfl <;> exact ⟨_, _, rfl, rfl, rfl, by decide, rfl⟩
  obtain ⟨c, tail, rfl, visible, unmarked, unquoted, other⟩ := start
  obtain ⟨taken, dropped⟩ := Decimal.takeWhile_word letters fun c member => (ended c member).2
  refine .first visible ?_ ?_ others
  · rw [List.cons_append] at taken dropped
    simp [readFirst, unmarked, unquoted, other, taken, dropped, read]
  · simp

end DualEval.Json
