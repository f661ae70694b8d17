import IRLexer.Text.CharClass
import IRLexer.Token

/-!
# Number literals

A number is an optional sign followed by a run of number characters.  The one exception is the
payload of a not-a-number, which a colon introduces.  Digits are not checked here, because how
many are allowed depends on the type that the number is read for.
-/

namespace IRLexer.NumberLiteral

def signLength : List Char → Nat
  | '-' :: _ => 1
  | _ => 0

def unsigned (text : List Char) : List Char :=
  text.drop (signLength text)

def quietName : List Char := ['N', 'a', 'N']

def infinityName : List Char := ['I', 'n', 'f']

def quietPayload : List Char := ['N', 'a', 'N', ':']

def signalingPayload : List Char := ['s', 'N', 'a', 'N', ':']

def introLength (text : List Char) : Nat :=
  if quietPayload.isPrefixOf text then quietPayload.length
  else if signalingPayload.isPrefixOf text then signalingPayload.length
  else 0

def headLength (text : List Char) : Nat :=
  signLength text + introLength (unsigned text)

def extent (text : List Char) : Nat :=
  headLength text + ((text.drop (headLength text)).takeWhile isNumberChar).length

/-- A radix point, an infinity or a not-a-number makes a float. -/
def isFloat (literal : List Char) : Bool :=
  literal.contains '.' ||
    ['N', 'a', 'N'].isPrefixOf (unsigned literal) ||
    ['I', 'n', 'f'].isPrefixOf (unsigned literal) ||
    signalingPayload.isPrefixOf (unsigned literal)

def kind (literal : List Char) : Kind :=
  if isFloat literal then .float else .integer

def startsWith (c : Char) : Bool :=
  c = '-' || c.isDigit

theorem extent_pos {first : Char} {rest : List Char} (h : startsWith first = true) :
    0 < extent (first :: rest) := by
  by_cases sign : first = '-'
  · subst sign
    simp only [extent, headLength, signLength]
    omega
  · have digit : first.isDigit = true := by simpa [startsWith, sign] using h
    have run : isNumberChar first = true :=
      isNumberChar_of_isWordChar (isWordChar_of_isDigit digit)
    unfold extent
    by_cases head : headLength (first :: rest) = 0
    · simp [head, run]
    · omega

end IRLexer.NumberLiteral
