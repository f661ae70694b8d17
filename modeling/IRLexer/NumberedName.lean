import IRLexer.Fault

/-!
# Numbered names

A numbered name is a stem followed by a number in plain decimal, such as `ebb15`.  The number is
the longest run of ASCII digits at the end of the name.  It counts only when it is spelled the way
numbers are printed and fits in 32 bits, so that splitting a name undoes appending a number to a
stem that does not itself end in a digit.
-/

namespace IRLexer

def maxIndex : Nat := UInt32.size - 1

namespace NumberedName

def trailingDigits (name : List Char) : Nat :=
  (name.reverse.takeWhile Char.isDigit).length

def stem (name : List Char) : List Char :=
  name.take (name.length - trailingDigits name)

def suffixDigits (name : List Char) : List Char :=
  name.drop (name.length - trailingDigits name)

def isPlain : List Char → Bool
  | [] => false
  | [_] => true
  | first :: _ => first ≠ '0'

/-- Splits a name into stem and number; a number of too many digits is refused, not read. -/
def split? (name : List Char) : Except Fault (Option (List Char × Nat)) :=
  let digits := suffixDigits name
  if !isPlain digits then .ok none
  else if maxNumeralDigits < digits.length then .error (.numeralTooLong digits.length)
  else if Nat.ofDigitChars 10 digits 0 ≤ maxIndex then
    .ok (some (stem name, Nat.ofDigitChars 10 digits 0))
  else .ok none

theorem stem_append_suffixDigits (name : List Char) : stem name ++ suffixDigits name = name :=
  List.take_append_drop _ name

end NumberedName

end IRLexer
