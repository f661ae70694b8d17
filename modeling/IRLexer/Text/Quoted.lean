import IRLexer.Text.Unprintable

/-!
# Quoted texts

Diagnostics show source characters between quotes on one line.  The apostrophe is the usual
quote; the double quote takes its place when that saves an escape.  What cannot be printed is
written by its code point in lower-case hexadecimal.
-/

namespace IRLexer.Quoted

def apostrophe : Char := '\x27'

def doubleQuote : Char := '\x22'

def backslash : Char := '\x5C'

def isPrintable (c : Char) : Bool :=
  !unprintableCodes.contains c.toNat

/-- The double quote delimits a text that holds an apostrophe and no double quote. -/
def delimiter (text : List Char) : Char :=
  if text.contains apostrophe && !text.contains doubleQuote then doubleQuote else apostrophe

def hexadecimal (width number : Nat) : List Char :=
  let digits := Nat.toDigits 16 number
  List.replicate (width - digits.length) '0' ++ digits

def escapeCode (code : Nat) : List Char :=
  if code < 0x100 then backslash :: 'x' :: hexadecimal 2 code
  else if code < 0x10000 then backslash :: 'u' :: hexadecimal 4 code
  else backslash :: 'U' :: hexadecimal 8 code

def escape (quote c : Char) : List Char :=
  if c = quote ∨ c = backslash then [backslash, c]
  else if c = '\t' then [backslash, 't']
  else if c = '\n' then [backslash, 'n']
  else if c = '\r' then [backslash, 'r']
  else if isPrintable c then [c]
  else escapeCode c.toNat

def encode (text : List Char) : List Char :=
  delimiter text :: text.flatMap (escape (delimiter text)) ++ [delimiter text]

end IRLexer.Quoted
