import IRLexer.Fault
import IRLexer.Token

/-!
# Fatal errors

A reader that stops at the first error reports it with the name of the source and the line, as
far as they are known.  The place is separated from the text by a single space, and colons at the
end of the place are dropped, whether they separate its parts or belong to the name.
-/

namespace IRLexer

structure LexError where
  text : String
  line : Option Int
  sourceFile : Option String
  deriving DecidableEq, Repr

namespace LexError

/-- The parts of the place that are known, each with a colon after it. -/
def place (error : LexError) : List Char :=
  let file :=
    match error.sourceFile with
    | some name => if name.isEmpty then [] else name.toList ++ [':']
    | none => []
  let line :=
    match error.line with
    | some number => Decimal.integer number ++ [':']
    | none => []
  file ++ line

def dropTrailingColons (text : List Char) : List Char :=
  (text.reverse.dropWhile (· = ':')).reverse

def message (error : LexError) : String :=
  if error.place.isEmpty then error.text
  else String.ofList (dropTrailingColons error.place ++ [' ']) ++ error.text

/-- The error that is raised: a line of too many digits cannot be written into its message. -/
def checked (error : LexError) : Except Fault LexError :=
  if error.line.all isWritable then .ok error else .error .integerTooLong

def ofInvalid (char : List Char) (line : Int) (sourceFile : Option String) : LexError :=
  ⟨describeInvalid char, some line, sourceFile⟩

end LexError

def CharError.fatal (error : CharError) (sourceFile : Option String) : LexError :=
  .ofInvalid [error.char] error.line sourceFile

/-! ## Failures -/

inductive Failure
  | fault (fault : Fault)
  | invalidChar (error : CharError) (sourceFile : Option String)
  | raised (message : String)
  deriving DecidableEq, Repr

def Failure.message : Failure → String
  | fault cause => cause.message
  | invalidChar error sourceFile => (error.fatal sourceFile).message
  | raised text => text

end IRLexer
