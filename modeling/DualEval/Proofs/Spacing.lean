import DualEval.Expression.Parser
import DualEval.Proofs.TokenLayout
import Mathlib.Data.List.Chain

/-!
# White space between tokens

A list of tokens is written down with white space before it and behind each token; only between two
words there has to be some.  However the white space is chosen, the text is cut into the same tokens
again, and every text comes about like this from the tokens that it is cut into, so that cutting a
text loses its white space and nothing else (`DualEval.Token.ofText_eq_iff_spacing`).
-/

namespace DualEval.Token

/-- A row of white space. -/
def Gap (text : List Char) : Prop := ∀ c ∈ text, Text.isBlank c = true

/-- Whether a token bounds itself. -/
def isParenthesis : Token → Bool
  | opening | closing => true
  | word _ => false

/-- A token that can be written down: the letters of a word are letters, and there are some. -/
def Proper : Token → Prop
  | opening | closing => True
  | word letters => letters ≠ [] ∧ ∀ c ∈ letters, isLetter c = true

/-- Tokens, each with the white space behind it, are fit to be written down one after the other: two
words in a row have white space between them. -/
structure WellPlaced (placed : List (Token × List Char)) : Prop where
  proper : ∀ place ∈ placed, place.1.Proper
  blank : ∀ place ∈ placed, Gap place.2
  apart : placed.IsChain fun place next =>
    place.1.isParenthesis = true ∨ next.1.isParenthesis = true ∨ place.2 ≠ []

/-- White space and tokens in the order in which they are written down. -/
structure Spacing where
  leading : List Char
  placed : List (Token × List Char)
  blank : Gap leading
  wellPlaced : WellPlaced placed

/-- The text of tokens with the white space behind them. -/
def written (placed : List (Token × List Char)) : List Char :=
  placed.flatMap fun place => place.1.letters ++ place.2

namespace Spacing

def tokens (spacing : Spacing) : List Token := spacing.placed.map Prod.fst

def characters (spacing : Spacing) : List Char := spacing.leading ++ written spacing.placed

def text (spacing : Spacing) : String := String.ofList spacing.characters

end Spacing

variable {gap rest text : List Char} {tokens : List Token} {t : Token}
  {placed : List (Token × List Char)}

theorem wellPlaced_nil : WellPlaced [] where
  proper := by simp
  blank := by simp
  apart := .nil

theorem wellPlaced_cons : WellPlaced ((t, gap) :: placed) ↔
    t.Proper ∧ Gap gap ∧
      (∀ next ∈ placed.head?,
        t.isParenthesis = true ∨ next.1.isParenthesis = true ∨ gap ≠ []) ∧ WellPlaced placed := by
  constructor
  · rintro ⟨proper, blank, apart⟩
    obtain ⟨first, proper⟩ := List.forall_mem_cons.mp proper
    obtain ⟨behind, blank⟩ := List.forall_mem_cons.mp blank
    obtain ⟨next, apart⟩ := List.isChain_cons.mp apart
    exact ⟨first, behind, next, proper, blank, apart⟩
  · rintro ⟨first, behind, next, proper, blank, apart⟩
    exact ⟨List.forall_mem_cons.mpr ⟨first, proper⟩, List.forall_mem_cons.mpr ⟨behind, blank⟩,
      List.isChain_cons.mpr ⟨next, apart⟩⟩

/-! ### From the tokens to the text -/

theorem LaysOut.behindGap (blank : Gap gap) (layout : LaysOut rest tokens) :
    LaysOut (gap ++ rest) tokens := by
  induction gap with
  | nil => exact layout
  | cons c gap ih =>
    obtain ⟨first, blank⟩ := List.forall_mem_cons.mp blank
    exact .blank first (ih blank)

theorem not_isLetter_of_isBlank {c : Char} (blank : Text.isBlank c = true) : isLetter c = false := by
  simp [isLetter, blank]

/-- A word has ended where the white space behind it begins, or else the next token, which is then a
parenthesis. -/
theorem endsWord_written (blank : Gap gap)
    (next : ∀ place ∈ placed.head?, place.1.isParenthesis = true ∨ gap ≠ []) :
    EndsWord (gap ++ written placed) := by
  cases gap with
  | cons c gap =>
    rintro _ ⟨⟩
    exact not_isLetter_of_isBlank (blank c List.mem_cons_self)
  | nil =>
    match placed with
    | [] => simp [EndsWord, written]
    | (t, behind) :: placed =>
      have parenthesis : t.isParenthesis = true := by simpa using next
      cases t with
      | opening =>
        rintro _ ⟨⟩
        decide
      | closing =>
        rintro _ ⟨⟩
        decide
      | word letters => contradiction

/-- What is written down lays out its tokens. -/
theorem laysOut_written (fit : WellPlaced placed) :
    LaysOut (written placed) (placed.map Prod.fst) := by
  induction placed with
  | nil => exact .nil
  | cons place placed ih =>
    obtain ⟨t, behind⟩ := place
    obtain ⟨proper, blank, next, fit⟩ := wellPlaced_cons.mp fit
    have following : LaysOut (behind ++ written placed) (placed.map Prod.fst) :=
      .behindGap blank (ih fit)
    have shape : written ((t, behind) :: placed) = t.letters ++ (behind ++ written placed) :=
      List.append_assoc _ _ _
    rw [shape]
    cases t with
    | opening => exact .opening following
    | closing => exact .closing following
    | word letters =>
      have ended : EndsWord (behind ++ written placed) :=
        endsWord_written blank fun place first => (next place first).resolve_left Bool.false_ne_true
      exact .word proper.1 proper.2 ended following

/-! ### From the text to the tokens -/

/-- A word that has ended is followed by white space or by a parenthesis. -/
theorem apart_of_endsWord (fit : WellPlaced placed) (ended : EndsWord (gap ++ written placed)) :
    ∀ next ∈ placed.head?, next.1.isParenthesis = true ∨ gap ≠ [] := by
  rintro ⟨t, behind⟩ first
  obtain ⟨placed, rfl⟩ := List.head?_eq_some_iff.mp first
  cases t with
  | opening => exact .inl rfl
  | closing => exact .inl rfl
  | word letters =>
    right
    rintro rfl
    obtain ⟨⟨nonempty, spelled⟩, _⟩ := wellPlaced_cons.mp fit
    obtain ⟨c, letters, rfl⟩ := List.exists_cons_of_ne_nil nonempty
    have letter : isLetter c = true := spelled c List.mem_cons_self
    have other : isLetter c = false := ended c rfl
    rw [letter] at other
    contradiction

/-- In front of what is written down another token can stand, and then has the white space that was in
front behind it. -/
theorem exists_spacing_cons (spacing : Spacing) (proper : t.Proper)
    (next : ∀ next ∈ spacing.placed.head?,
      t.isParenthesis = true ∨ next.1.isParenthesis = true ∨ spacing.leading ≠ []) :
    ∃ longer : Spacing, longer.characters = t.letters ++ spacing.characters ∧
      longer.tokens = t :: spacing.tokens := by
  have fit := wellPlaced_cons.mpr ⟨proper, spacing.blank, next, spacing.wellPlaced⟩
  exact ⟨⟨[], (t, spacing.leading) :: spacing.placed, List.forall_mem_nil _, fit⟩,
    List.append_assoc _ _ _, rfl⟩

/-- A text that lays out tokens is written down from them. -/
theorem exists_spacing (layout : LaysOut text tokens) :
    ∃ spacing : Spacing, spacing.characters = text ∧ spacing.tokens = tokens := by
  induction layout with
  | nil => exact ⟨⟨[], [], List.forall_mem_nil _, wellPlaced_nil⟩, rfl, rfl⟩
  | @blank c _ _ blank _ ih =>
    obtain ⟨⟨leading, placed, blanks, fit⟩, rfl, rfl⟩ := ih
    exact ⟨⟨c :: leading, placed, List.forall_mem_cons.mpr ⟨blank, blanks⟩, fit⟩, rfl, rfl⟩
  | opening _ ih =>
    obtain ⟨spacing, rfl, rfl⟩ := ih
    exact exists_spacing_cons (t := .opening) spacing trivial fun _ _ => .inl rfl
  | closing _ ih =>
    obtain ⟨spacing, rfl, rfl⟩ := ih
    exact exists_spacing_cons (t := .closing) spacing trivial fun _ _ => .inl rfl
  | @word letters _ _ nonempty spelled ended _ ih =>
    obtain ⟨spacing, rfl, rfl⟩ := ih
    have next := apart_of_endsWord spacing.wellPlaced ended
    exact exists_spacing_cons (t := .word letters) spacing ⟨nonempty, spelled⟩
      fun place first => .inr (next place first)

/-- A blank behind every token is always enough. -/
theorem exists_spacing_of_proper (proper : ∀ t ∈ tokens, t.Proper) :
    ∃ spacing : Spacing, spacing.tokens = tokens := by
  have blank : Gap [' '] := List.forall_mem_singleton.mpr (by decide)
  have fit : WellPlaced (tokens.map fun t => (t, [' '])) := by
    induction tokens with
    | nil => exact wellPlaced_nil
    | cons t tokens ih =>
      obtain ⟨first, proper⟩ := List.forall_mem_cons.mp proper
      exact wellPlaced_cons.mpr
        ⟨first, blank, fun _ _ => .inr (.inr (List.cons_ne_nil _ _)), ih proper⟩
  refine ⟨⟨[], _, List.forall_mem_nil _, fit⟩, ?_⟩
  rw [Spacing.tokens, List.map_map]
  exact List.map_id tokens

/-- **Cutting a text into tokens loses its white space and nothing else.** A text is cut into the
tokens from which it is written down, whatever the white space; every text is written down from the
tokens that it is cut into; and all proper tokens can be written down, in every order.  So an
expression is read alike from all texts that are written down from the same tokens. -/
theorem ofText_eq_iff_spacing :
    (∀ text tokens, ofText text = tokens ↔
      ∃ spacing : Spacing, spacing.text = text ∧ spacing.tokens = tokens) ∧
    (∀ tokens, (∃ text, ofText text = tokens) ↔ ∀ t ∈ tokens, t.Proper) ∧
    ∀ spacing other : Spacing, spacing.tokens = other.tokens →
      Expression.parse spacing.text = Expression.parse other.text := by
  have cut (spacing : Spacing) : ofText spacing.text = spacing.tokens := by
    have layout := LaysOut.behindGap spacing.blank (laysOut_written spacing.wellPlaced)
    rw [← String.toList_ofList (l := spacing.leading ++ _)] at layout
    exact (laysOut_iff.mp layout).symm
  have lossless (text : String) :
      ∃ spacing : Spacing, spacing.text = text ∧ spacing.tokens = ofText text := by
    obtain ⟨spacing, shape, tokens⟩ := exists_spacing (laysOut_iff.mpr (rfl : ofText text = _))
    exact ⟨spacing, by rw [Spacing.text, shape, String.ofList_toList], tokens⟩
  refine ⟨fun text tokens => ⟨?_, ?_⟩, fun tokens => ⟨?_, ?_⟩, ?_⟩
  · rintro rfl
    exact lossless text
  · rintro ⟨spacing, rfl, rfl⟩
    exact cut spacing
  · rintro ⟨text, rfl⟩ t member
    obtain ⟨spacing, _, tokens⟩ := lossless text
    rw [← tokens] at member
    obtain ⟨place, placed, rfl⟩ := List.mem_map.mp member
    exact spacing.wellPlaced.proper place placed
  · intro proper
    obtain ⟨spacing, rfl⟩ := exists_spacing_of_proper proper
    exact ⟨spacing.text, cut spacing⟩
  · intro spacing other same
    rw [Expression.parse, Expression.parse, cut, cut, same]

end DualEval.Token
