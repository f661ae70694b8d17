/-!
# Decimal numerals

The plain decimal spelling of numbers: no sign on a natural number, no leading zero, and a hyphen
before the digits of a negative integer.
-/

namespace IRLexer.Decimal

def natural (number : Nat) : List Char :=
  Nat.toDigits 10 number

def integer : Int → List Char
  | .ofNat number => natural number
  | .negSucc predecessor => '-' :: natural (predecessor + 1)

end IRLexer.Decimal
