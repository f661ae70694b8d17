import IRLexer.Token

/-!
# Log records

Scanning records every character that starts no token, and a token stream that is read to its end
records how much it held.  All loggers lie below one root.
-/

namespace IRLexer

def rootLogger : String := "ctonlex"

/-- A name at or below the root stands for itself; any other is placed below the root. -/
def loggerName (name : String) : String :=
  if name = rootLogger ∨ (rootLogger ++ ".").toList.isPrefixOf name.toList then name
  else rootLogger ++ "." ++ name

inductive LogRecord
  | invalidChar (error : CharError)
  | summary (sourceFile : Option String) (tokens errors : Nat)
  deriving DecidableEq, Repr

namespace LogRecord

def level : String := "DEBUG"

def logger : LogRecord → String
  | invalidChar _ => loggerName "lexer.core"
  | summary .. => rootLogger

def sourceLabel : Option String → String
  | some name => if name.isEmpty then "<source>" else name
  | none => "<source>"

def message : LogRecord → String
  | invalidChar error =>
      "Invalid character " ++ String.ofList (Quoted.encode [error.char]) ++ " at " ++
        describeLine error.line
  | summary sourceFile tokens errors =>
      "Scanned " ++ sourceLabel sourceFile ++ ": " ++
        String.ofList (Decimal.natural tokens) ++ " tokens, " ++
        String.ofList (Decimal.natural errors) ++ " errors"

end LogRecord

end IRLexer
