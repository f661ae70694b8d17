import IRLexer.Lexeme
import IRLexer.Word

/-!
# Scanning

Scanning turns lexemes into tokens and errors, one at a time.  The only fault it can meet is a
word with too long a number, and by then the word lies behind the cursor, so that scanning can go
on after it.
-/

namespace IRLexer

namespace Lexeme

def token (lexeme : Lexeme) (kind : Kind) (payload : Option Payload) : Token :=
  ⟨kind, payload, lexeme.text, lexeme.start, lexeme.line⟩

def readWord (lexeme : Lexeme) : Except Fault Token :=
  (Meaning.ofWord? lexeme.text).map fun meaning =>
    match meaning with
    | some meaning => lexeme.token meaning.kind (some meaning.payload)
    | none => lexeme.token .identifier none

def read (lexeme : Lexeme) : Except Fault Item :=
  match lexeme.form with
  | .comment => .ok (.token (lexeme.token .comment none))
  | .punctuation kind => .ok (.token (lexeme.token kind none))
  | .arrow => .ok (.token (lexeme.token .arrow none))
  | .number => .ok (.token (lexeme.token (NumberLiteral.kind lexeme.text) none))
  | .word => lexeme.readWord.map .token
  | .stray char => .ok (.invalid ⟨char, lexeme.start, lexeme.line⟩)

variable {lexeme : Lexeme}

theorem readWord_eq_ok_iff {token : Token} :
    lexeme.readWord = .ok token ↔ ∃ meaning, Meaning.ofWord? lexeme.text = .ok meaning ∧
      lexeme.token ((meaning.map Meaning.kind).getD .identifier)
        (meaning.map Meaning.payload) = token := by
  unfold readWord
  cases Meaning.ofWord? lexeme.text with
  | error fault => simp [Except.map]
  | ok meaning => cases meaning <;> simp [Except.map]

theorem read_of_word (hform : lexeme.form = .word) :
    lexeme.read = lexeme.readWord.map .token := by
  simp only [read, hform]

theorem read_eq_ok_iff_of_word (hform : lexeme.form = .word) {item : Item} :
    lexeme.read = .ok item ↔ ∃ token, lexeme.readWord = .ok token ∧ .token token = item := by
  rw [read_of_word hform]
  cases lexeme.readWord <;> simp [Except.map]

end Lexeme

namespace Cursor

/-- The next item, or nothing at the end; the cursor moves in either case, and also on a fault. -/
def next (cursor : Cursor) : Except Fault (Option Item) × Cursor :=
  match cursor.lexeme? with
  | none => (.ok none, cursor.skipBlanks)
  | some (lexeme, after) => (lexeme.read.map some, after)

def word (cursor : Cursor) : Except Fault Token × Cursor :=
  match cursor.lookahead with
  | none => (.error .noWord, cursor)
  | some first =>
      if isWordStart first then
        let (lexeme, after) := cursor.cut .word (Form.word.extent cursor.rest)
        (lexeme.readWord, after)
      else (.error .noWord, cursor)

def number (cursor : Cursor) : Token × Cursor :=
  let (lexeme, after) := cursor.cut .number (NumberLiteral.extent cursor.rest)
  (lexeme.token (NumberLiteral.kind lexeme.text) none, after)

def comment (cursor : Cursor) : Token × Cursor :=
  let (lexeme, after) := cursor.cut .comment (Form.comment.extent cursor.rest)
  (lexeme.token .comment none, after)

/-- A token of exactly `count` characters.  If fewer are left they are passed over all the same. -/
def chars (cursor : Cursor) (count : Nat) (kind : Kind) : Except Fault Token × Cursor :=
  if count ≤ cursor.rest.length then
    (.ok ⟨kind, none, cursor.rest.take count, cursor.offset, cursor.line⟩, cursor.skip count)
  else (.error .textTooShort, cursor.skip count)

end Cursor

/-! ## Many items -/

structure Scan where
  items : List Item
  fault : Option Fault
  cursor : Cursor
  deriving DecidableEq, Repr

namespace Scan

def stopped (cursor : Cursor) (fault : Option Fault) : Scan :=
  ⟨[], fault, cursor⟩

def prepend (item : Item) (scan : Scan) : Scan :=
  { scan with items := item :: scan.items }

end Scan

namespace Cursor

def take (cursor : Cursor) : Nat → Scan
  | 0 => .stopped cursor none
  | limit + 1 =>
      match cursor.next with
      | (.error fault, after) => .stopped after (some fault)
      | (.ok none, after) => .stopped after none
      | (.ok (some item), after) => (after.take limit).prepend item

def drain (cursor : Cursor) : Scan :=
  match _h : cursor.lexeme? with
  | none => .stopped cursor.skipBlanks none
  | some (lexeme, after) =>
      match lexeme.read with
      | .error fault => .stopped after (some fault)
      | .ok item => after.drain.prepend item
termination_by cursor.rest.length
decreasing_by exact rest_lt_of_lexeme? _h

end Cursor

def scan (source : List Char) : Scan :=
  (Cursor.start source).drain

end IRLexer
