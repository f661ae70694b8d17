/-!
# The cursor

A cursor stands between two characters of a source.  It keeps the characters that are left and
counts what lies behind it, its offset and its line.  Lexemes are cut at cursors; a scanner, which
keeps the whole source and looks into it by offsets, sees what the cursor at its position sees.
-/

namespace IRLexer

structure Cursor where
  offset : Nat := 0
  line : Nat := 1
  rest : List Char
  deriving DecidableEq, Repr

namespace Cursor

def start (source : List Char) : Cursor :=
  { rest := source }

def lookahead (cursor : Cursor) : Option Char :=
  cursor.rest.head?

def skip (cursor : Cursor) (count : Nat) : Cursor where
  offset := cursor.offset + (cursor.rest.take count).length
  line := cursor.line + (cursor.rest.take count).count '\n'
  rest := cursor.rest.drop count

def skipWhile (cursor : Cursor) (skipped : Char → Bool) : Cursor :=
  cursor.skip (cursor.rest.takeWhile skipped).length

def lookingAt (cursor : Cursor) (expected : List Char) : Bool :=
  expected.isPrefixOf cursor.rest

def restOfLine (cursor : Cursor) : List Char :=
  cursor.rest.takeWhile (· ≠ '\n')

def lineEnd (cursor : Cursor) : Nat :=
  cursor.offset + cursor.restOfLine.length

/-- Jumps to the end of the line.  No line feed is crossed, so the line stays what it is. -/
def toLineEnd (cursor : Cursor) : Cursor where
  offset := cursor.lineEnd
  line := cursor.line
  rest := cursor.rest.dropWhile (· ≠ '\n')

/-! ## The place of a cursor -/

/-- The cursor stands in the source at its offset, on the line that the offset lies on. -/
def IsIn (cursor : Cursor) (source : List Char) : Prop :=
  ∃ behind, source = behind ++ cursor.rest ∧ cursor.offset = behind.length ∧
    cursor.line = 1 + behind.count '\n'

theorem start_isIn (source : List Char) : (start source).IsIn source :=
  ⟨[], rfl, rfl, rfl⟩

theorem IsIn.skip {cursor : Cursor} {source : List Char} (h : cursor.IsIn source)
    (count : Nat) : (cursor.skip count).IsIn source := by
  obtain ⟨behind, whole, offset, line⟩ := h
  refine ⟨behind ++ cursor.rest.take count, ?_, ?_, ?_⟩
  · simpa [Cursor.skip] using whole
  · simp [Cursor.skip, offset]
  · simp [Cursor.skip, line, Nat.add_assoc]

theorem rest_skip (cursor : Cursor) (count : Nat) :
    (cursor.skip count).rest = cursor.rest.drop count :=
  rfl

theorem skip_zero (cursor : Cursor) : cursor.skip 0 = cursor := by
  simp [Cursor.skip]

theorem skip_skip (cursor : Cursor) (first second : Nat) :
    (cursor.skip first).skip second = cursor.skip (first + second) := by
  simp only [Cursor.skip, List.take_add, List.count_append, List.drop_drop, List.length_append,
    Cursor.mk.injEq, and_true]
  constructor <;> omega

end Cursor

end IRLexer
