import DualEval.Expression.Token

/-!
# Layouts of tokens

A text lays out a list of tokens: parentheses stand for themselves, a word stands as long as its
letters go, and white space may stand anywhere between.  Every text lays out exactly one list, the
one that the scanner answers, so the scanner can be reasoned about through layouts alone.
-/

namespace DualEval.Token

/-- Whether a character can stand in a word. -/
def isLetter (c : Char) : Bool := c ≠ '(' && c ≠ ')' && !Text.isBlank c

/-- Whether a word that is followed by these characters has ended. -/
def EndsWord (rest : List Char) : Prop := ∀ c ∈ rest.head?, isLetter c = false

/-- A text, as characters, lays out a list of tokens. -/
inductive LaysOut : List Char → List Token → Prop where
  | nil : LaysOut [] []
  | blank {c rest tokens} : Text.isBlank c = true → LaysOut rest tokens → LaysOut (c :: rest) tokens
  | opening {rest tokens} : LaysOut rest tokens → LaysOut ('(' :: rest) (opening :: tokens)
  | closing {rest tokens} : LaysOut rest tokens → LaysOut (')' :: rest) (closing :: tokens)
  /-- A word is not empty and goes on for as long as there are letters. -/
  | word {letters rest tokens} : letters ≠ [] → (∀ c ∈ letters, isLetter c = true) →
      EndsWord rest → LaysOut rest tokens → LaysOut (letters ++ rest) (word letters :: tokens)

variable {collected letters rest text : List Char} {tokens : List Token}

theorem scan_blank {c : Char} (blank : Text.isBlank c = true) :
    scan collected (c :: rest) = finish collected (scan [] rest) := by
  have left : c ≠ '(' := by rintro rfl; revert blank; decide
  have right : c ≠ ')' := by rintro rfl; revert blank; decide
  rw [scan, if_neg left, if_neg right, if_pos blank]

theorem scan_letter {c : Char} (letter : isLetter c = true) :
    scan collected (c :: rest) = scan (c :: collected) rest := by
  simp only [isLetter, Bool.and_eq_true, decide_eq_true_eq, Bool.not_eq_true', ne_eq] at letter
  obtain ⟨⟨left, right⟩, visible⟩ := letter
  rw [scan, if_neg left, if_neg right, if_neg (by rw [visible]; exact Bool.false_ne_true)]

/-- Letters are collected until the word has ended. -/
theorem scan_letters (spelled : ∀ c ∈ letters, isLetter c = true) :
    scan collected (letters ++ rest) = scan (letters.reverse ++ collected) rest := by
  induction letters generalizing collected with
  | nil => rfl
  | cons c letters ih =>
    rw [List.cons_append, scan_letter (spelled c List.mem_cons_self),
      ih fun c member => spelled c (List.mem_cons_of_mem _ member)]
    simp only [List.reverse_cons, List.append_assoc, List.singleton_append]

/-- Where a word has ended, the word under way is put before the tokens that follow. -/
theorem scan_ended (ended : EndsWord rest) : scan collected rest = finish collected (scan [] rest) := by
  cases rest with
  | nil => rfl
  | cons c rest =>
    have other : isLetter c = false := ended c rfl
    by_cases left : c = '('
    · subst left; rfl
    · by_cases right : c = ')'
      · subst right; rfl
      · have blank : Text.isBlank c = true := by simpa [isLetter, left, right] using other
        rw [scan_blank blank, scan_blank blank]
        rfl

/-- The scanner answers every list that the text lays out. -/
theorem scan_eq_of_laysOut (layout : LaysOut text tokens) : scan [] text = tokens := by
  induction layout with
  | nil => rfl
  | blank blank _ ih =>
    rw [scan_blank blank, ih]
    rfl
  | opening _ ih => exact congrArg (Token.opening :: ·) ih
  | closing _ ih => exact congrArg (Token.closing :: ·) ih
  | @word letters rest tokens nonempty spelled ended _ ih =>
    have collected : letters.reverse ≠ [] := by simpa using nonempty
    rw [scan_letters spelled, List.append_nil, scan_ended ended, ih, finish, if_neg collected,
      List.reverse_reverse]

/-- A finished word and the rest are laid out together. -/
theorem laysOut_finish (spelled : ∀ c ∈ collected, isLetter c = true) (ended : EndsWord rest)
    (layout : LaysOut rest tokens) : LaysOut (collected.reverse ++ rest) (finish collected tokens) := by
  by_cases none : collected = []
  · subst none
    exact layout
  · rw [finish, if_neg none]
    exact .word (by simpa using none) (by simpa using spelled) ended layout

/-- Every text lays out what the scanner answers, with the word under way before it. -/
theorem laysOut_scan (collected text : List Char) (spelled : ∀ c ∈ collected, isLetter c = true) :
    LaysOut (collected.reverse ++ text) (scan collected text) := by
  induction text generalizing collected with
  | nil => exact laysOut_finish spelled (by simp [EndsWord]) .nil
  | cons c text ih =>
    have rest : LaysOut text (scan [] text) := ih [] (by simp)
    by_cases letter : isLetter c = true
    · have next := ih (c :: collected) (by simpa [letter] using spelled)
      rw [scan_letter letter]
      simpa using next
    · have ended : EndsWord (c :: text) := by simpa [EndsWord] using letter
      rw [scan_ended ended]
      apply laysOut_finish spelled ended
      by_cases left : c = '('
      · subst left; exact .opening rest
      · by_cases right : c = ')'
        · subst right; exact .closing rest
        · have blank : Text.isBlank c = true := by simpa [isLetter, left, right] using letter
          rw [scan_blank blank]
          exact .blank blank rest

/-- **A text lays out exactly one list of tokens**, the one that it is cut into. -/
theorem laysOut_iff {text : String} : LaysOut text.toList tokens ↔ tokens = ofText text := by
  constructor
  · intro layout
    exact (scan_eq_of_laysOut layout).symm
  · rintro rfl
    exact laysOut_scan [] text.toList (by simp)

end DualEval.Token
