import IRLexer.Text.Decimal

/-!
# Faults of the lexer

A fault is a refusal of the lexer itself, as opposed to a character of the source that starts no
lexeme.  Two of them answer requests that the source cannot meet at the cursor.
-/

namespace IRLexer

/-- The most digits that a number may have to be read from a name or written into a text. -/
def maxNumeralDigits : Nat := 4300

def isWritable (number : Int) : Bool :=
  (Decimal.natural number.natAbs).length ≤ maxNumeralDigits

inductive Fault
  | noWord
  | textTooShort
  | numeralTooLong (digits : Nat)
  /-- A number that would be written into a text has too many digits. -/
  | integerTooLong
  deriving DecidableEq, Repr

def Fault.message : Fault → String
  | .noWord => ""
  | .textTooShort => ""
  | .numeralTooLong digits =>
      "Exceeds the limit (" ++ String.ofList (Decimal.natural maxNumeralDigits) ++
        " digits) for integer string conversion: value has " ++
        String.ofList (Decimal.natural digits) ++
        " digits; use sys.set_int_max_str_digits() to increase the limit"
  | .integerTooLong =>
      "Exceeds the limit (" ++ String.ofList (Decimal.natural maxNumeralDigits) ++
        " digits) for integer string conversion" ++
        "; use sys.set_int_max_str_digits() to increase the limit"

end IRLexer
