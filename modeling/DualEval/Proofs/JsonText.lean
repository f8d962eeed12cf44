import DualEval.Json.Parser
import DualEval.Proofs.JsonLexemes

/-!
# Reading back JSON

A value without floating-point data, whose integers fit a word and whose objects name each member once, is
read back from its text as it was (`DualEval.Json.parse?_render`).  The text falls into the lexemes of the
value, and these are read by descent.
-/

namespace DualEval.Json

open Lexeme

variable {text rest : List Char} {following : List Lexeme}

/-! ### The lexemes of a value -/

mutual

/-- The lexemes of a value's text. -/
def lexemes : Json → List Lexeme
  | list items => .openList :: itemLexemes items
  | object members => .openObject :: memberLexemes members
  | value => [.atom value]

/-- The lexemes of the items left in a list, with its end. -/
def itemLexemes : List Json → List Lexeme
  | [] => [.closeList]
  | [item] => lexemes item ++ [.closeList]
  | item :: rest => lexemes item ++ .comma :: itemLexemes rest

/-- The lexemes of the members left in an object, with its end. -/
def memberLexemes : List (String × Json) → List Lexeme
  | [] => [.closeObject]
  | [(name, value)] => .atom (.text name) :: .colon :: lexemes value ++ [.closeObject]
  | (name, value) :: rest => .atom (.text name) :: .colon :: lexemes value ++ .comma :: memberLexemes rest

end

/-- The values that their text gives back: integers are exact, and the members of an object have different
names. -/
inductive Faithful : Json → Prop where
  | null : Faithful .null
  | bool (b : Bool) : Faithful (.bool b)
  | integer {n : Int} (exact' : isExact n = true) : Faithful (.integer n)
  | text (s : String) : Faithful (.text s)
  | list {items : List Json} (each : ∀ item ∈ items, Faithful item) : Faithful (.list items)
  | object {members : List (String × Json)} (distinct : (members.map Prod.fst).Nodup)
      (each : ∀ member ∈ members, Faithful member.2) : Faithful (.object members)

/-- The text of a value falls into its lexemes, whatever stands after it. -/
def CutsUp (value : Json) : Prop :=
  ∀ rest following, Ended rest → Cut rest following →
    Cut (letters value ++ rest) (lexemes value ++ following)

theorem cut_items {items : List Json} (each : ∀ item ∈ items, CutsUp item) (others : Cut rest following) :
    Cut (itemLetters items ++ rest) (itemLexemes items ++ following) := by
  induction items with
  | nil => exact cut_mark rfl others
  | cons item items ih =>
    have first := each item (List.mem_cons_self ..)
    cases items with
    | nil =>
      simp only [itemLetters, itemLexemes, List.append_assoc]
      exact first _ _ (ended_cons rfl rfl) (cut_mark rfl others)
    | cons next items =>
      have left := ih fun item member => each item (List.mem_cons_of_mem _ member)
      simp only [itemLetters, itemLexemes, List.append_assoc, List.cons_append] at left ⊢
      exact first _ _ (ended_cons rfl rfl) (cut_mark rfl left)

theorem cut_members {members : List (String × Json)} (each : ∀ member ∈ members, CutsUp member.2)
    (others : Cut rest following) :
    Cut (memberLetters members ++ rest) (memberLexemes members ++ following) := by
  induction members with
  | nil => exact cut_mark rfl others
  | cons member members ih =>
    obtain ⟨name, value⟩ := member
    have first := each (name, value) (List.mem_cons_self ..)
    cases members with
    | nil =>
      simp only [memberLetters, memberLexemes, List.append_assoc, List.cons_append]
      exact cut_quoted name (cut_mark rfl (first _ _ (ended_cons rfl rfl) (cut_mark rfl others)))
    | cons next members =>
      have left := ih fun member known => each member (List.mem_cons_of_mem _ known)
      simp only [memberLetters, memberLexemes, List.append_assoc, List.cons_append] at left ⊢
      exact cut_quoted name (cut_mark rfl (first _ _ (ended_cons rfl rfl) (cut_mark rfl left)))

theorem cutsUp_of_faithful {value : Json} (faithful : Faithful value) : CutsUp value := by
  induction faithful with
  | null => exact fun _ _ => cut_name rfl
  | bool b => cases b <;> exact fun _ _ => cut_name rfl
  | integer exact' =>
    exact fun _ _ => cut_number (isNumberLetter_of_integerText _) (numberOf?_integerText exact')
  | text s => exact fun _ _ _ => cut_quoted s
  | list _ each => exact fun _ _ _ others => cut_mark rfl (cut_items each others)
  | object _ _ each => exact fun _ _ _ others => cut_mark rfl (cut_members each others)

/-! ### Reading the lexemes -/

theorem lastOfEach_of_distinct {members : List (String × Json)} (distinct : (members.map Prod.fst).Nodup) :
    lastOfEach members = members := by
  induction members with
  | nil => rfl
  | cons member members ih =>
    obtain ⟨name, value⟩ := member
    obtain ⟨new, distinct⟩ := List.nodup_cons.mp distinct
    have kept : (members.any fun member => member.1 = name) = false := by
      refine List.any_eq_false.mpr fun member known => ?_
      simpa using fun same : member.1 = name => new (List.mem_map.mpr ⟨member, known, same⟩)
    simp [lastOfEach, kept, ih distinct]

/-- A value is read from its lexemes, whatever follows them. -/
def ReadsUp (value : Json) : Prop :=
  ∀ budget rest, 2 * (lexemes value).length ≤ budget →
    readValue budget (lexemes value ++ rest) = some (value, rest)

variable {budget : Nat} {others : List Lexeme}

theorem readItems_itemLexemes {items : List Json} (each : ∀ item ∈ items, ReadsUp item) (nonempty : items ≠ [])
    (enough : 2 * (itemLexemes items).length ≤ budget) :
    readItems budget (itemLexemes items ++ others) = some (items, others) := by
  induction items generalizing budget with
  | nil => contradiction
  | cons item items ih =>
    have first := each item (List.mem_cons_self ..)
    cases items with
    | nil =>
      simp only [itemLexemes, List.length_append, List.length_singleton] at enough
      obtain ⟨budget, rfl⟩ : ∃ less, budget = less + 1 := ⟨budget - 1, by omega⟩
      have read := first budget (.closeList :: others) (by omega)
      simp [itemLexemes, readItems, read]
    | cons next items =>
      simp only [itemLexemes, List.length_append, List.length_cons] at enough
      obtain ⟨budget, rfl⟩ : ∃ less, budget = less + 1 := ⟨budget - 1, by omega⟩
      have read := first budget (.comma :: (itemLexemes (next :: items) ++ others)) (by omega)
      have left : readItems budget (itemLexemes (next :: items) ++ others) = some (next :: items, others) :=
        ih (fun item member => each item (List.mem_cons_of_mem _ member)) (by simp) (by omega)
      simp [itemLexemes, readItems, read, left]

theorem readMembers_memberLexemes {members : List (String × Json)}
    (each : ∀ member ∈ members, ReadsUp member.2) (nonempty : members ≠ [])
    (enough : 2 * (memberLexemes members).length ≤ budget) :
    readMembers budget (memberLexemes members ++ others) = some (members, others) := by
  induction members generalizing budget with
  | nil => contradiction
  | cons member members ih =>
    obtain ⟨name, value⟩ := member
    have first : ReadsUp value := each (name, value) (List.mem_cons_self ..)
    cases members with
    | nil =>
      simp only [memberLexemes, List.length_append, List.length_cons, List.length_nil] at enough
      obtain ⟨budget, rfl⟩ : ∃ less, budget = less + 1 := ⟨budget - 1, by omega⟩
      have read := first budget (.closeObject :: others) (by omega)
      simp [memberLexemes, readMembers, read]
    | cons next members =>
      simp only [memberLexemes, List.length_append, List.length_cons] at enough
      obtain ⟨budget, rfl⟩ : ∃ less, budget = less + 1 := ⟨budget - 1, by omega⟩
      have read := first budget (.comma :: (memberLexemes (next :: members) ++ others)) (by omega)
      have left : readMembers budget (memberLexemes (next :: members) ++ others) =
          some (next :: members, others) :=
        ih (fun member known => each member (List.mem_cons_of_mem _ known)) (by simp) (by omega)
      simp [memberLexemes, readMembers, read, left]

/-- No value starts with the end of a list. -/
theorem lexemes_ne_closeList (value : Json) (rest tail : List Lexeme) :
    lexemes value ++ rest ≠ .closeList :: tail := by
  cases value <;> simp [lexemes]

/-- A list with items is read item by item. -/
theorem readValue_openList {within : List Lexeme} (opened : ∀ tail, within ≠ .closeList :: tail) :
    readValue (budget + 1) (.openList :: within) =
      (readItems budget within).map fun (items, rest) => (list items, rest) := by
  rw [readValue]
  exact opened

/-- An object with members is read member by member. -/
theorem readValue_openObject {within : List Lexeme} (opened : ∀ tail, within ≠ .closeObject :: tail) :
    readValue (budget + 1) (.openObject :: within) =
      (readMembers budget within).map fun (members, rest) => (object (lastOfEach members), rest) := by
  rw [readValue]
  exact opened

theorem readsUp_list {items : List Json} (each : ∀ item ∈ items, ReadsUp item) : ReadsUp (.list items) := by
  intro budget others enough
  simp only [lexemes, List.length_cons] at enough
  obtain ⟨budget, rfl⟩ : ∃ less, budget = less + 1 := ⟨budget - 1, by omega⟩
  rw [lexemes, List.cons_append]
  cases items with
  | nil => simp [itemLexemes, readValue]
  | cons item items =>
    have read : readItems budget (itemLexemes (item :: items) ++ others) = some (item :: items, others) :=
      readItems_itemLexemes each (by simp) (by omega)
    have opened : ∀ tail, itemLexemes (item :: items) ++ others ≠ .closeList :: tail := by
      cases items <;> simp [itemLexemes, lexemes_ne_closeList]
    rw [readValue_openList opened, read]
    rfl

theorem readsUp_object {members : List (String × Json)} (distinct : (members.map Prod.fst).Nodup)
    (each : ∀ member ∈ members, ReadsUp member.2) : ReadsUp (.object members) := by
  intro budget others enough
  simp only [lexemes, List.length_cons] at enough
  obtain ⟨budget, rfl⟩ : ∃ less, budget = less + 1 := ⟨budget - 1, by omega⟩
  rw [lexemes, List.cons_append]
  cases members with
  | nil => simp [memberLexemes, readValue]
  | cons member members =>
    have read : readMembers budget (memberLexemes (member :: members) ++ others) =
        some (member :: members, others) :=
      readMembers_memberLexemes each (by simp) (by omega)
    have opened : ∀ tail, memberLexemes (member :: members) ++ others ≠ .closeObject :: tail := by
      cases members <;> simp [memberLexemes]
    rw [readValue_openObject opened, read]
    simp only [Option.map_some, lastOfEach_of_distinct distinct]

theorem readsUp_of_faithful {value : Json} (faithful : Faithful value) : ReadsUp value := by
  have atom {value : Json} (single : lexemes value = [.atom value]) : ReadsUp value := by
    intro budget others enough
    rw [single] at enough ⊢
    obtain ⟨budget, rfl⟩ : ∃ less, budget = less + 1 := ⟨budget - 1, by simp at enough; omega⟩
    rfl
  induction faithful with
  | null => exact atom rfl
  | bool b => exact atom rfl
  | integer exact' => exact atom rfl
  | text s => exact atom rfl
  | list _ each => exact readsUp_list each
  | object distinct _ each => exact readsUp_object distinct each

/-- The text of a value gives it back. -/
theorem parse?_render {value : Json} (faithful : Faithful value) : parse? (render value) = some value := by
  have cut : Cut (letters value) (lexemes value) := by
    simpa using cutsUp_of_faithful faithful [] [] (by simp [Ended]) .done
  have scanned : Lexeme.ofText? (render value) = some (lexemes value) := by
    rw [Lexeme.ofText?, render, String.toList_ofList]
    exact scan_of_cut cut (by simp)
  have read := readsUp_of_faithful faithful (2 * (lexemes value).length + 1) [] (by omega)
  rw [List.append_nil] at read
  simp [parse?, scanned, read]

end DualEval.Json
