import IRLexer.Cursor
import IRLexer.Text.Slice

/-!
# The scanner

A scanner keeps the whole of its source and its position in it, and reads the source by offsets that
count from the beginning.  The character at the position is fetched once and kept as the lookahead.
What lies ahead of a scanner is seen by the cursor that stands where the scanner does.
-/

namespace IRLexer

structure Scanner where
  source : List Char
  position : Nat
  lookahead : Option Char
  line : Nat
  deriving DecidableEq, Repr

namespace Scanner

def start (source : List Char) : Scanner :=
  ⟨source, 0, source[0]?, 1⟩

def text (scanner : Scanner) (first last : Nat) : List Char :=
  slice scanner.source first last

def advance (scanner : Scanner) : Scanner :=
  match scanner.lookahead with
  | none => scanner
  | some passed =>
      { scanner with
        position := scanner.position + 1
        lookahead := scanner.source[scanner.position + 1]?
        line := if passed = '\n' then scanner.line + 1 else scanner.line }

def lookingAt (scanner : Scanner) (expected : List Char) : Bool :=
  scanner.text scanner.position (scanner.position + expected.length) = expected

def lineEnd (scanner : Scanner) : Nat :=
  match (scanner.source.drop scanner.position).findIdx? (· = '\n') with
  | some index => scanner.position + index
  | none => scanner.source.length

def restOfLine (scanner : Scanner) : List Char :=
  scanner.text scanner.position scanner.lineEnd

/-- Jumps to the end of the line without looking for line feeds on the way. -/
def toLineEnd (scanner : Scanner) : Scanner :=
  { scanner with
    position := scanner.lineEnd
    lookahead := scanner.source[scanner.lineEnd]? }

def cursor (scanner : Scanner) : Cursor :=
  ⟨scanner.position, scanner.line, scanner.source.drop scanner.position⟩

end Scanner

def Cursor.scanner (cursor : Cursor) (source : List Char) : Scanner :=
  ⟨source, cursor.offset, cursor.lookahead, cursor.line⟩

end IRLexer
