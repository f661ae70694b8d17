import IRLexer.Cursor
import IRLexer.NumberLiteral

/-!
# Lexemes

A source is a sequence of lexemes with blanks between them.  The first character of a lexeme and
the one after it decide its form; the form and the rest of the source decide how far it extends.
-/

namespace IRLexer

def punctuation : List (Char × Kind) :=
  [
    ('(', .leftParen), (')', .rightParen), ('{', .leftBrace), ('}', .rightBrace),
    (',', .comma), ('.', .dot), (':', .colon), ('=', .equal)
  ]

def punctuationKind? (c : Char) : Option Kind :=
  punctuation.lookup c

/-! ## Forms -/

inductive Form
  | comment
  | punctuation (kind : Kind)
  | arrow
  | number
  | word
  | stray (char : Char)
  deriving DecidableEq, Repr

namespace Form

def starting (first : Char) (later : List Char) : Form :=
  if first = ';' then .comment
  else
    match punctuationKind? first with
    | some kind => .punctuation kind
    | none =>
        if first = '-' ∧ later.head? = some '>' then .arrow
        else if NumberLiteral.startsWith first then .number
        else if isLetter first then .word
        else .stray first

def extent : Form → List Char → Nat
  | comment, text => (text.takeWhile (· ≠ '\n')).length
  | punctuation _, _ => 1
  | arrow, _ => 2
  | number, text => NumberLiteral.extent text
  | word, text => (text.takeWhile isWordChar).length
  | stray _, _ => 1

theorem extent_starting_pos (first : Char) (later : List Char) :
    0 < (starting first later).extent (first :: later) := by
  unfold starting
  split
  · next h => simp [h, extent]
  · split
    · simp [extent]
    · split
      · simp [extent]
      · split
        · next h => exact NumberLiteral.extent_pos h
        · split
          · next h =>
              have inside := isWordChar_of_isWordStart (isWordStart_of_isLetter h)
              simp [extent, inside]
          · simp [extent]

end Form

structure Lexeme where
  form : Form
  text : List Char
  start : Nat
  line : Nat
  deriving DecidableEq, Repr

namespace Cursor

def cut (cursor : Cursor) (form : Form) (count : Nat) : Lexeme × Cursor :=
  (⟨form, cursor.rest.take count, cursor.offset, cursor.line⟩, cursor.skip count)

def skipBlanks (cursor : Cursor) : Cursor :=
  cursor.skipWhile isBlank

/-- The first lexeme at or after the cursor, and the cursor behind it. -/
def lexeme? (cursor : Cursor) : Option (Lexeme × Cursor) :=
  match cursor.skipBlanks.rest with
  | [] => none
  | first :: later =>
      let form := Form.starting first later
      some (cursor.skipBlanks.cut form (form.extent (first :: later)))

theorem rest_lt_of_lexeme? {cursor after : Cursor} {lexeme : Lexeme}
    (h : cursor.lexeme? = some (lexeme, after)) : after.rest.length < cursor.rest.length := by
  unfold lexeme? at h
  split at h
  · simp at h
  · next first later rest =>
      have pos := Form.extent_starting_pos first later
      have shorter : cursor.skipBlanks.rest.length ≤ cursor.rest.length := by
        simp [skipBlanks, skipWhile, rest_skip]
      rw [rest] at shorter
      simp only [cut, Option.some.injEq, Prod.mk.injEq] at h
      rw [← h.2, rest_skip, rest, List.length_drop]
      simp only [List.length_cons] at shorter ⊢
      omega

def lexemes (cursor : Cursor) : List Lexeme :=
  match _h : cursor.lexeme? with
  | none => []
  | some (lexeme, after) => lexeme :: after.lexemes
termination_by cursor.rest.length
decreasing_by exact rest_lt_of_lexeme? _h

end Cursor

end IRLexer
