import IRLexer.Config
import IRLexer.LexError
import IRLexer.Text.Slice

/-!
# Subjects of description and comparison

Tokens, errors and payloads can also be put together by hand, with offsets and lines that no scan
would give them.  Each has a description for diagnostics, and an equality that looks at what it
means and not at the text it came from.
-/

namespace IRLexer

structure SpanToken where
  kind : Kind
  payload : Option Payload
  start : Int
  stop : Int
  source : List Char
  deriving DecidableEq, Repr

namespace SpanToken

def text (token : SpanToken) : List Char :=
  slice token.source token.start token.stop

def describe (token : SpanToken) : String :=
  describeToken token.kind token.payload token.text

/-- The source of a token is no part of what it is. -/
def same (first second : SpanToken) : Bool :=
  first.kind = second.kind && first.payload = second.payload &&
    first.start = second.start && first.stop = second.stop

end SpanToken

structure ErrorReport where
  char : List Char
  line : Int
  offset : Int
  deriving DecidableEq, Repr

def CharError.report (error : CharError) : ErrorReport :=
  ⟨[error.char], error.line, error.offset⟩

def ErrorReport.describe (report : ErrorReport) : String :=
  describeLine report.line ++ ": " ++ describeInvalid report.char

def ErrorReport.fatal (report : ErrorReport) (sourceFile : Option String) : LexError :=
  .ofInvalid report.char report.line sourceFile

inductive Subject
  | token (span : SpanToken)
  | locatedToken (span : SpanToken) (line : Int)
  | location (line : Int)
  | error (report : ErrorReport)
  | config (config : Config)
  | payload (content : Payload)
  deriving DecidableEq, Repr

def Payload.numbers : Payload → List Int
  | .value _ number | .block number | .index number => [number]
  | .type shape => shape.laneBits :: if shape.isVector then [shape.lanes] else []

namespace Subject

def numbers : Subject → List Int
  | token span => span.payload.toList.flatMap Payload.numbers
  | location line => [line]
  | error report => [report.line]
  | payload content => content.numbers
  | locatedToken .. | config _ => []

def text? : Subject → Option String
  | token span => some span.describe
  | locatedToken .. => none
  | location line => some (describeLine line)
  | error report => some report.describe
  | config _ => none
  | payload content => some (String.ofList content.spelling)

/-- The description of a subject, if it has one.  Numbers of too many digits are not written. -/
def describe? (subject : Subject) : Except Fault (Option String) :=
  if subject.numbers.all isWritable then .ok subject.text? else .error .integerTooLong

/-- Errors are the same when they lie on the same line; subjects of two sorts never are. -/
def same : Subject → Subject → Bool
  | token first, token second => first.same second
  | locatedToken first firstLine, locatedToken second secondLine =>
      first.same second && firstLine = secondLine
  | location first, location second => first = second
  | error first, error second => first.line = second.line
  | config first, config second => first = second
  | payload first, payload second => first = second
  | _, _ => false

end Subject

end IRLexer
