import DualEval.Expression.Parser
import DualEval.Proofs.LiteralGrammar
import DualEval.Proofs.TokenLayout
import Mathlib.Data.List.Basic

/-!
# The precedence of faults

What is wrong with a text is decided on its tokens, in a fixed order: the parentheses, a form inside
the form, the number of words, the operator, the operands from left to right.  Each rule is a
condition on the token list as a whole, stated through counts of parentheses and not through the
loop that checks them, and reading a text answers what the rules say.
-/

namespace DualEval

namespace Token

/-- The parentheses of a token list form one pair around all other tokens: the list begins and ends
with its outer parentheses, these are closed by the last token, and by no earlier one. -/
structure SingleForm (tokens : List Token) : Prop where
  opened : tokens.head? = some opening
  closed : tokens.getLast? = some closing
  balanced : tokens.count opening = tokens.count closing
  closedLast : ∀ front back, tokens = front ++ back → front ≠ [] → back ≠ [] →
    front.count closing < front.count opening

/-- What stands between the first and the last token. -/
def inner (tokens : List Token) : List Token := tokens.tail.dropLast

variable {depth : Nat} {tokens body : List Token}

/-- With some forms open, the tokens close no more than these before their end, and all of them by
the end. -/
structure Closes (depth : Nat) (body : List Token) : Prop where
  balanced : body.count closing = body.count opening + depth
  within : ∀ front back, body = front ++ back → front.count closing ≤ front.count opening + depth

theorem closes_nil : Closes 0 [] where
  balanced := rfl
  within := by
    intro front back split
    rw [(List.append_eq_nil_iff.mp split.symm).1]
    exact Nat.le_refl _

/-- A token in front changes the number of open forms and nothing else. -/
theorem closes_cons {t : Token} {next : Nat}
    (shift : ∀ rest : List Token, ((t :: rest).count closing : Int) + next + rest.count opening =
      rest.count closing + depth + (t :: rest).count opening) :
    Closes depth (t :: body) ↔ Closes next body := by
  constructor
  · rintro ⟨balanced, within⟩
    refine ⟨?_, ?_⟩
    · have moved := shift body
      omega
    · rintro front back rfl
      have moved := shift front
      have bound := within (t :: front) back rfl
      omega
  · rintro ⟨balanced, within⟩
    refine ⟨?_, ?_⟩
    · have moved := shift body
      omega
    · intro front back split
      cases front with
      | nil => exact Nat.zero_le _
      | cons first front =>
        obtain ⟨rfl, rfl⟩ := List.cons.inj split
        have moved := shift front
        have bound := within front back rfl
        omega

theorem closes_closing : Closes (depth + 1) (closing :: body) ↔ Closes depth body :=
  closes_cons fun rest => by simp; omega

theorem closes_opening : Closes depth (opening :: body) ↔ Closes (depth + 1) body :=
  closes_cons fun rest => by simp; omega

theorem closes_word {letters : List Char} :
    Closes depth (word letters :: body) ↔ Closes depth body :=
  closes_cons fun rest => by simp

/-- With no form open there is nothing to close. -/
theorem not_closes_closing : ¬ Closes 0 (closing :: body) := by
  rintro ⟨_, within⟩
  have bound := within [closing] body rfl
  simp at bound

/-- The outer parenthesis is closed by the last of the tokens after it. -/
theorem append_closing_eq_cons_iff {t : Token} {rest : List Token} :
    t :: rest = body ++ [closing] ↔
      (body = [] ∧ t = closing ∧ rest = []) ∨
        ∃ following, body = t :: following ∧ rest = following ++ [closing] := by
  cases body with
  | nil => simp
  | cons first following =>
    simp only [List.cons_append, List.cons.injEq, reduceCtorEq, false_and, false_or]
    constructor
    · rintro ⟨rfl, rfl⟩
      exact ⟨following, ⟨rfl, rfl⟩, rfl⟩
    · rintro ⟨_, ⟨rfl, rfl⟩, rfl⟩
      exact ⟨rfl, rfl⟩

/-- A token that does not end the search is kept, and the search goes on behind it. -/
theorem map_formBody?_eq_some_iff {t : Token} {rest : List Token} {next : Nat}
    (moves : ∀ {body}, Closes depth (t :: body) ↔ Closes next body)
    (goesOn : t = closing → ¬ Closes depth [])
    (found : ∀ {body}, formBody? next rest = some body ↔
      rest = body ++ [closing] ∧ Closes next body) :
    (formBody? next rest).map (t :: ·) = some body ↔
      t :: rest = body ++ [closing] ∧ Closes depth body := by
  rw [Option.map_eq_some_iff, append_closing_eq_cons_iff]
  constructor
  · rintro ⟨following, some, rfl⟩
    obtain ⟨shape, closes⟩ := found.mp some
    exact ⟨.inr ⟨following, rfl, shape⟩, moves.mpr closes⟩
  · rintro ⟨⟨rfl, last, _⟩ | ⟨following, rfl, shape⟩, closes⟩
    · exact absurd closes (goesOn last)
    · exact ⟨following, found.mpr ⟨shape, moves.mp closes⟩, rfl⟩

/-- The body of a form is found exactly if the form closes with the last token. -/
theorem formBody?_eq_some_iff :
    formBody? depth tokens = some body ↔ tokens = body ++ [closing] ∧ Closes depth body := by
  fun_induction formBody? depth tokens generalizing body with
  | case1 => simp
  | case2 =>
    rw [append_closing_eq_cons_iff]
    constructor
    · rintro ⟨⟩
      exact ⟨.inl ⟨rfl, rfl, rfl⟩, closes_nil⟩
    · rintro ⟨⟨rfl, _, _⟩ | ⟨following, _, other⟩, _⟩
      · rfl
      · simp at other
  | case3 rest nonempty =>
    rw [append_closing_eq_cons_iff]
    constructor
    · rintro ⟨⟩
    · rintro ⟨⟨_, _, none⟩ | ⟨following, rfl, _⟩, closes⟩
      · exact absurd none nonempty
      · exact absurd closes not_closes_closing
  | case4 depth rest ih =>
    refine map_formBody?_eq_some_iff closes_closing (fun _ closes => ?_) ih
    have balanced := closes.balanced
    simp at balanced
  | case5 depth rest ih => exact map_formBody?_eq_some_iff closes_opening (by rintro ⟨⟩) ih
  | case6 depth letters rest ih => exact map_formBody?_eq_some_iff closes_word (by rintro ⟨⟩) ih

/-- Between the outer parentheses of a single form everything that is opened is closed. -/
theorem singleForm_iff : SingleForm (opening :: (body ++ [closing])) ↔ Closes 0 body := by
  constructor
  · rintro ⟨_, _, balanced, closedLast⟩
    refine ⟨?_, ?_⟩
    · simp at balanced
      omega
    · rintro front back rfl
      have bound := closedLast (opening :: front) (back ++ [closing]) (by simp) (by simp) (by simp)
      simp at bound
      omega
  · rintro ⟨balanced, within⟩
    have last : ((opening :: body) ++ [closing]).getLast? = some closing := List.getLast?_concat
    refine ⟨rfl, last, by simp; omega, ?_⟩
    intro front back split someFront someBack
    obtain ⟨first, front, rfl⟩ := List.exists_cons_of_ne_nil someFront
    obtain ⟨back, final, rfl⟩ : ∃ before final, back = before ++ [final] :=
      ⟨_, _, (List.dropLast_concat_getLast someBack).symm⟩
    rw [List.cons_append, List.cons.injEq, ← List.append_assoc] at split
    obtain ⟨rfl, rest⟩ := split
    have bound := within front back (List.append_inj_left' rest rfl)
    simp
    omega

/-- A single form is its inner tokens between the outer parentheses. -/
theorem SingleForm.shape (single : SingleForm tokens) :
    tokens = opening :: (inner tokens ++ [closing]) := by
  obtain ⟨opened, closed, _, _⟩ := single
  match tokens with
  | [] => simp at opened
  | [_] =>
    obtain rfl : _ = opening := by simpa using opened
    simp at closed
  | first :: second :: rest =>
    obtain rfl : first = opening := by simpa using opened
    have last : (second :: rest).getLast? = some closing := by simpa using closed
    obtain ⟨front, split⟩ := List.getLast?_eq_some_iff.mp last
    rw [inner, List.tail_cons, split, List.dropLast_concat]

/-- **The form of a token list is found exactly if its parentheses form a single pair.** -/
theorem form?_eq_some_iff :
    form? tokens = some body ↔ SingleForm tokens ∧ body = inner tokens := by
  constructor
  · intro found
    match tokens with
    | [] | closing :: _ | word _ :: _ => simp [form?] at found
    | opening :: rest =>
      obtain ⟨rfl, closes⟩ := formBody?_eq_some_iff.mp found
      exact ⟨singleForm_iff.mpr closes, by simp [inner]⟩
  · rintro ⟨single, rfl⟩
    have shape := single.shape
    generalize inner tokens = body at shape ⊢
    subst shape
    exact formBody?_eq_some_iff.mpr ⟨rfl, singleForm_iff.mp single⟩

/-- In a single form, a form inside the form shows as a second opening parenthesis. -/
theorem SingleForm.opening_mem_iff (single : SingleForm tokens) :
    opening ∈ inner tokens ↔ 1 < tokens.count opening := by
  have count : tokens.count opening = (inner tokens).count opening + 1 := by
    conv => lhs; rw [single.shape]
    simp
  rw [count, ← List.count_pos_iff]
  omega

end Token

/-- A text spells an operator. -/
inductive Operator.Spells : String → Operator → Prop where
  | plus : Spells "+" .add
  | minus : Spells "-" .subtract
  | asterisk : Spells "*" .multiply
  | slash : Spells "/" .divide

namespace Expression

open Token

/-- A token list is a single form of three words without a form inside. -/
structure Flat (tokens : List Token) (symbol left right : Token) : Prop where
  single : SingleForm tokens
  flat : tokens.count opening ≤ 1
  words : inner tokens = [symbol, left, right]

/-- What is said of a token list, one rule for each answer.  Every rule requires that no earlier one
applies. -/
inductive Judged (tokens : List Token) : Except ParseError Expression → Prop where
  | malformed : ¬ SingleForm tokens → Judged tokens (.error .malformed)
  | nesting : SingleForm tokens → 1 < tokens.count opening →
      Judged tokens (.error .unsupportedNesting)
  | arity : SingleForm tokens → tokens.count opening ≤ 1 → (inner tokens).length ≠ 3 →
      Judged tokens (.error (.arityMismatch (inner tokens).length))
  | operator {symbol left right} : Flat tokens symbol left right →
      (∀ operator, ¬ Operator.Spells symbol.spelling operator) →
      Judged tokens (.error (.unknownOperator symbol.spelling))
  | leftOperand {symbol left right operator} : Flat tokens symbol left right →
      Operator.Spells symbol.spelling operator → (∀ x, ¬ Operand.Denotes left.letters x) →
      Judged tokens (.error (.invalidOperand left.spelling))
  | rightOperand {symbol left right operator a} : Flat tokens symbol left right →
      Operator.Spells symbol.spelling operator → Operand.Denotes left.letters a →
      (∀ x, ¬ Operand.Denotes right.letters x) →
      Judged tokens (.error (.invalidOperand right.spelling))
  | accepted {symbol left right operator a b} : Flat tokens symbol left right →
      Operator.Spells symbol.spelling operator → Operand.Denotes left.letters a →
      Operand.Denotes right.letters b →
      Judged tokens (.ok { operator, left := a, right := b, reserved := Binary32.zero })

variable {tokens : List Token}

theorem ofSymbol?_eq_some_iff {text : String} {operator : Operator} :
    Operator.ofSymbol? text = some operator ↔ Operator.Spells text operator := by
  constructor
  · intro known
    unfold Operator.ofSymbol? at known
    split at known <;> cases known <;> constructor
  · rintro ⟨⟩ <;> rfl

theorem spells_symbol (operator : Operator) : Operator.Spells operator.symbol operator :=
  ofSymbol?_eq_some_iff.mp (Operator.ofSymbol?_symbol operator)

theorem read_of_denotes {letters : List Char} {x : Binary32} (denotes : Operand.Denotes letters x) :
    Operand.read letters = .ok x := by
  rw [Operand.read, Operand.read?_eq_some_iff.mpr denotes]

theorem read_of_not_denotes {letters : List Char} (refused : ∀ x, ¬ Operand.Denotes letters x) :
    Operand.read letters = .error (.invalidOperand (String.ofList letters)) := by
  have none : Operand.read? letters = none := by
    rw [Option.eq_none_iff_forall_ne_some]
    exact fun x read => refused x (Operand.read?_eq_some_iff.mp read)
  rw [Operand.read, none]

theorem ofWords_of_length_ne {words : List (List Char)} (other : words.length ≠ 3) :
    ofWords words = .error (.arityMismatch words.length) := by
  rw [ofWords]
  rintro symbol left right rfl
  exact other rfl

/-- Past the operator only the operands decide. -/
theorem ofWords_of_spells {symbol : Token} {operator : Operator} (left right : List Char)
    (spelled : Operator.Spells symbol.spelling operator) :
    ofWords [symbol.letters, left, right] = (do
      let left ← Operand.read left
      let right ← Operand.read right
      return { operator, left, right }) := by
  have known : Operator.ofSymbol? (String.ofList symbol.letters) = some operator :=
    ofSymbol?_eq_some_iff.mpr spelled
  rw [ofWords, known]

/-- A single form without a form inside is answered by its words. -/
theorem ofTokens_of_single (single : SingleForm tokens) (flat : tokens.count opening ≤ 1) :
    ofTokens tokens = ofWords ((inner tokens).map Token.letters) := by
  have none : opening ∉ inner tokens := by
    rw [single.opening_mem_iff]
    omega
  rw [ofTokens, form?_eq_some_iff.mpr ⟨single, rfl⟩]
  exact if_neg none

theorem ofTokens_of_flat {symbol left right : Token} (flat : Flat tokens symbol left right) :
    ofTokens tokens = ofWords [symbol.letters, left.letters, right.letters] := by
  rw [ofTokens_of_single flat.single flat.flat, flat.words]
  rfl

/-- What the rules say of a token list is what it is answered. -/
theorem ofTokens_of_judged {outcome : Except ParseError Expression}
    (judged : Judged tokens outcome) : ofTokens tokens = outcome := by
  cases judged with
  | malformed broken =>
    have none : form? tokens = none := by
      rw [Option.eq_none_iff_forall_ne_some]
      exact fun body found => broken (form?_eq_some_iff.mp found).1
    rw [ofTokens, none]
  | nesting single nested =>
    rw [ofTokens, form?_eq_some_iff.mpr ⟨single, rfl⟩]
    exact if_pos (single.opening_mem_iff.mpr nested)
  | arity single flat other =>
    rw [ofTokens_of_single single flat, ofWords_of_length_ne (by simpa using other), List.length_map]
  | @operator symbol left right flat unknown =>
    have none : Operator.ofSymbol? (String.ofList symbol.letters) = none := by
      rw [Option.eq_none_iff_forall_ne_some]
      exact fun operator known => unknown operator (ofSymbol?_eq_some_iff.mp known)
    rw [ofTokens_of_flat flat, ofWords, none]
    rfl
  | leftOperand flat spelled refused =>
    rw [ofTokens_of_flat flat, ofWords_of_spells _ _ spelled,
      read_of_not_denotes refused]
    rfl
  | rightOperand flat spelled denotes refused =>
    rw [ofTokens_of_flat flat, ofWords_of_spells _ _ spelled,
      read_of_denotes denotes, read_of_not_denotes refused]
    rfl
  | accepted flat spelled first second =>
    rw [ofTokens_of_flat flat, ofWords_of_spells _ _ spelled,
      read_of_denotes first, read_of_denotes second]
    rfl

/-- The rules say something of every token list. -/
theorem exists_judged (tokens : List Token) : ∃ outcome, Judged tokens outcome := by
  by_cases single : SingleForm tokens
  case neg => exact ⟨_, .malformed single⟩
  by_cases nested : 1 < tokens.count opening
  case pos => exact ⟨_, .nesting single nested⟩
  by_cases three : (inner tokens).length = 3
  case neg => exact ⟨_, .arity single (Nat.le_of_not_lt nested) three⟩
  obtain ⟨symbol, left, right, words⟩ := List.length_eq_three.mp three
  have flat : Flat tokens symbol left right := ⟨single, Nat.le_of_not_lt nested, words⟩
  by_cases known : ∃ operator, Operator.Spells symbol.spelling operator
  case neg => exact ⟨_, .operator flat (not_exists.mp known)⟩
  obtain ⟨operator, spelled⟩ := known
  by_cases first : ∃ a, Operand.Denotes left.letters a
  case neg => exact ⟨_, .leftOperand flat spelled (not_exists.mp first)⟩
  obtain ⟨a, first⟩ := first
  by_cases second : ∃ b, Operand.Denotes right.letters b
  case neg => exact ⟨_, .rightOperand flat spelled first (not_exists.mp second)⟩
  obtain ⟨b, second⟩ := second
  exact ⟨_, .accepted flat spelled first second⟩

theorem judged_ofTokens (tokens : List Token) : Judged tokens (ofTokens tokens) := by
  obtain ⟨outcome, judged⟩ := exists_judged tokens
  rwa [ofTokens_of_judged judged]

/-- **Reading a text decides it by the precedence of faults.** Every text lays out exactly one token
list, and the text is answered as the rules say of that list: malformed parentheses first, then a
form inside the form, the number of words, the operator, and the operands from left to right. -/
theorem parse_eq_iff_judged (text : String) :
    ∃ tokens, (∀ other, LaysOut text.toList other ↔ other = tokens) ∧
      ∀ outcome, parse text = outcome ↔ Judged tokens outcome := by
  refine ⟨ofText text, fun other => laysOut_iff, fun outcome => ?_⟩
  rw [parse]
  exact ⟨fun answered => answered ▸ judged_ofTokens _, ofTokens_of_judged⟩

end Expression

end DualEval
