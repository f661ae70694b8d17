import IRLexer.Scanner
import IRLexer.Session

/-!
# Readers

A request that reads a token is met by a reader that moves a scanner over the source character by
character.  In every step it tests what is ahead and then moves on or turns to its next test.  One
of its loops, on the way to the colon of a payload, does not test for the end of the source and
would run forever there; a reader that never comes to an answer has none.
-/

namespace IRLexer

/-- The test that a reader makes next. -/
inductive Control
  | next
  | chars (left : Nat) (kind : Kind)
  | comment
  | number
  /-- Behind the sign, in front of the introduction of a payload if there is one. -/
  | payload
  /-- At the head of the loop that passes over the introduction up to its colon. -/
  | colon
  | run (isFloat : Bool)
  | word
  | wordRun
  | answered (result : Except Fault (Option Item))

/-- A reader keeps the offset and the line at which its token begins. -/
structure Reader where
  control : Control
  mark : Nat
  line : Nat
  scanner : Scanner

namespace Reader

def start (control : Control) (scanner : Scanner) : Reader :=
  ⟨control, scanner.position, scanner.line, scanner⟩

def goto (reader : Reader) (control : Control) : Reader :=
  { reader with control := control }

def advance (reader : Reader) (control : Control) : Reader :=
  { reader with control := control, scanner := reader.scanner.advance }

def text (reader : Reader) : List Char :=
  reader.scanner.text reader.mark reader.scanner.position

def answerToken (reader : Reader) (kind : Kind) : Reader :=
  reader.goto (.answered (.ok (some (.token ⟨kind, none, reader.text, reader.mark, reader.line⟩))))

def answerNumber (reader : Reader) (isFloat : Bool) : Reader :=
  reader.answerToken (if isFloat then .float else .integer)

def answerWord (reader : Reader) : Reader :=
  reader.goto (.answered
    ((Lexeme.readWord ⟨.word, reader.text, reader.mark, reader.line⟩).map fun token =>
      some (.token token)))

/-- Picks the form of an item by its first character; on a blank the loop goes round again. -/
def dispatch (reader : Reader) (first : Char) : Reader :=
  if first = ';' then start .comment reader.scanner
  else
    match punctuationKind? first with
    | some kind => start (.chars 1 kind) reader.scanner
    | none =>
        if first = '-' then
          if reader.scanner.lookingAt ['-', '>'] then start (.chars 2 .arrow) reader.scanner
          else start .number reader.scanner
        else if first.isDigit then start .number reader.scanner
        else if isLetter first then start .word reader.scanner
        else if isBlank first then reader.advance .next
        else
          reader.advance (.answered
            (.ok (some (.invalid ⟨first, reader.scanner.position, reader.scanner.line⟩))))

def step (reader : Reader) : Reader :=
  match reader.control with
  | .next =>
      match reader.scanner.lookahead with
      | none => reader.goto (.answered (.ok none))
      | some first => reader.dispatch first
  | .chars 0 kind => reader.answerToken kind
  | .chars (left + 1) kind =>
      match reader.scanner.lookahead with
      | none => reader.goto (.answered (.error .textTooShort))
      | some _ => reader.advance (.chars left kind)
  | .comment => ({ reader with scanner := reader.scanner.toLineEnd }).answerToken .comment
  | .number =>
      if reader.scanner.lookahead = some '-' then reader.advance .payload
      else reader.goto .payload
  | .payload =>
      if reader.scanner.lookingAt NumberLiteral.quietPayload ||
          reader.scanner.lookingAt NumberLiteral.signalingPayload then reader.goto .colon
      else
        reader.goto (.run (reader.scanner.lookingAt NumberLiteral.quietName ||
          reader.scanner.lookingAt NumberLiteral.infinityName))
  | .colon =>
      if reader.scanner.lookahead = some ':' then reader.advance (.run true)
      else reader.advance .colon
  | .run isFloat =>
      match reader.scanner.lookahead with
      | none => reader.answerNumber isFloat
      | some c =>
          if c = '.' then reader.advance (.run true)
          else if isNumberChar c then reader.advance (.run isFloat)
          else reader.answerNumber isFloat
  | .word =>
      match reader.scanner.lookahead with
      | none => reader.goto (.answered (.error .noWord))
      | some first =>
          if isWordStart first then reader.advance .wordRun
          else reader.goto (.answered (.error .noWord))
  | .wordRun =>
      match reader.scanner.lookahead with
      | none => reader.answerWord
      | some c => if isWordChar c then reader.advance .wordRun else reader.answerWord
  | .answered _ => reader

def after : Nat → Reader → Reader
  | 0, reader => reader
  | steps + 1, reader => after steps reader.step

def answer? (reader : Reader) : Option (Except Fault (Option Item) × Scanner) :=
  match reader.control with
  | .answered given => some (given, reader.scanner)
  | _ => none

/-- The answer that the reader comes to within a number of steps. -/
def finish (reader : Reader) : Nat → Option (Except Fault (Option Item) × Scanner)
  | 0 => reader.answer?
  | steps + 1 =>
      match reader.answer? with
      | some answer => some answer
      | none => reader.step.finish steps

end Reader

/-! ## Sessions of a scanner -/

def Request.control? : Request → Option Control
  | next => some .next
  | word => some .word
  | number => some .number
  | comment => some .comment
  | chars count kind => some (.chars count.toNat kind)
  | restOfLine | drain | take _ | advance | lookingAt _ | lineEnd => none

namespace Scanner

/-- A reader that comes to an answer passes what is left and takes four steps more at most. -/
def read (scanner : Scanner) (control : Control) :
    Option (Except Fault (Option Item) × Scanner) :=
  (Reader.start control scanner).finish (scanner.source.length - scanner.position + 4)

def take (scanner : Scanner) : Nat → Option (Except Fault (List Item) × Scanner)
  | 0 => some (.ok [], scanner)
  | limit + 1 => do
      let (answer, after) ← scanner.read .next
      match answer with
      | .error fault => some (.error fault, after)
      | .ok none => some (.ok [], after)
      | .ok (some item) =>
          let (items, last) ← after.take limit
          some (items.map (item :: ·), last)

/-- Every item takes up a character, so that no more of them are left than characters. -/
def drain (scanner : Scanner) : Option (Except Fault (List Item) × Scanner) :=
  scanner.take (scanner.source.length - scanner.position + 1)

def answerItem (scanner : Scanner) (control : Control) : Option (Except Fault Reply × Scanner) :=
  (scanner.read control).map fun (answer, after) => (answer.map .item, after)

end Scanner

def Request.serve (scanner : Scanner) : Request → Option (Except Fault Reply × Scanner)
  | next => scanner.answerItem .next
  | word => scanner.answerItem .word
  | number => scanner.answerItem .number
  | comment => scanner.answerItem .comment
  | chars count kind => scanner.answerItem (.chars count.toNat kind)
  | drain => scanner.drain.map fun (items, after) => (items.map .items, after)
  | take limit => (scanner.take limit).map fun (items, after) => (items.map .items, after)
  | restOfLine => some (.ok (.text scanner.restOfLine), scanner.toLineEnd)
  | advance => some (.ok (.lookahead scanner.advance.lookahead), scanner.advance)
  | lookingAt expected => some (.ok (.truth (scanner.lookingAt expected)), scanner)
  | lineEnd => some (.ok (.offset scanner.lineEnd), scanner)

def Scanner.runSession (scanner : Scanner) :
    List Request → Option (List (Except Fault Reply × Scanner))
  | [] => some []
  | request :: later => do
      let (reply, after) ← request.serve scanner
      let entries ← after.runSession later
      some ((reply, after) :: entries)

end IRLexer
