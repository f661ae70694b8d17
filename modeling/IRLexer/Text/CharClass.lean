import IRLexer.Text.Letter
import IRLexer.Text.Numeric

/-!
# Character classes of the lexical grammar

Blanks separate lexemes.  Words and numbers are runs of alphanumeric characters with a few
punctuation marks; a combining mark belongs to neither.
-/

namespace IRLexer

/-- The code points with the White_Space property. -/
def blankCodes : CodePointSet :=
  [
    (0x9, 0xD), (0x20, 0x20), (0x85, 0x85), (0xA0, 0xA0), (0x1680, 0x1680), (0x2000, 0x200A),
    (0x2028, 0x2029), (0x202F, 0x202F), (0x205F, 0x205F), (0x3000, 0x3000)
  ]

def informationSeparatorCodes : CodePointSet :=
  [(0x1C, 0x1F)]

def isBlank (c : Char) : Bool :=
  blankCodes.contains c.toNat

def isInformationSeparator (c : Char) : Bool :=
  informationSeparatorCodes.contains c.toNat

/--
A single character must be a blank.  A longer text is also blank when information separators
stand in it, and the empty text never is.
-/
def isBlankText : List Char → Bool
  | [] => false
  | [c] => isBlank c
  | text => text.all fun c => isBlank c || isInformationSeparator c

def isLetter (c : Char) : Bool :=
  letterCodes.contains c.toNat

def isNumeric (c : Char) : Bool :=
  numericCodes.contains c.toNat

def isAlphanumeric (c : Char) : Bool :=
  isLetter c || isNumeric c

def isWordStart (c : Char) : Bool :=
  c = '_' || isLetter c

def isWordChar (c : Char) : Bool :=
  c = '_' || isAlphanumeric c

def isNumberChar (c : Char) : Bool :=
  c = '.' || c = '-' || isWordChar c

theorem isWordChar_of_isWordStart {c : Char} (h : isWordStart c = true) :
    isWordChar c = true := by
  simp only [isWordStart, isWordChar, isAlphanumeric, Bool.or_eq_true] at h ⊢
  rcases h with h | h
  · exact .inl h
  · exact .inr (.inl h)

theorem isWordStart_of_isLetter {c : Char} (h : isLetter c = true) : isWordStart c = true := by
  simp [isWordStart, h]

theorem isNumeric_of_isDigit {c : Char} (h : c.isDigit = true) : isNumeric c = true := by
  have bounds : 48 ≤ c.toNat ∧ c.toNat ≤ 57 := by
    simp only [Char.isDigit, Bool.and_eq_true, decide_eq_true_eq] at h
    exact h
  unfold isNumeric numericCodes
  rw [CodePointSet.contains_cons, if_neg (by omega), if_pos (by omega)]

theorem isWordChar_of_isDigit {c : Char} (h : c.isDigit = true) : isWordChar c = true := by
  simp [isWordChar, isAlphanumeric, isNumeric_of_isDigit h]

theorem isWordChar_eq_false_of_isBlank {c : Char} (h : isBlank c = true) :
    isWordChar c = false := by
  have letter : isLetter c = false :=
    CodePointSet.contains_eq_false_of_isSeparateFrom blankCodes letterCodes (by decide +kernel) h
  have numeric : isNumeric c = false :=
    CodePointSet.contains_eq_false_of_isSeparateFrom blankCodes numericCodes (by decide +kernel) h
  have underscore : c ≠ '_' := by
    rintro rfl
    exact absurd h (by decide)
  simp [isWordChar, isAlphanumeric, letter, numeric, underscore]

theorem isNumberChar_of_isWordChar {c : Char} (h : isWordChar c = true) :
    isNumberChar c = true := by
  simp [isNumberChar, h]

end IRLexer
