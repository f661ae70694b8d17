import IRLexer.Scan

/-!
# Sessions

A session answers a sequence of requests on one cursor.  A request that meets a fault leaves the
cursor where the fault arose, and the session goes on from there.
-/

namespace IRLexer

inductive Request
  | next
  | restOfLine
  | drain
  | take (limit : Nat)
  | advance
  | lookingAt (expected : List Char)
  | lineEnd
  | word
  | number
  | comment
  | chars (count : Int) (kind : Kind)
  deriving DecidableEq, Repr

inductive Reply
  | item (item : Option Item)
  | items (items : List Item)
  | text (text : List Char)
  | lookahead (char : Option Char)
  | truth (value : Bool)
  | offset (offset : Nat)
  deriving DecidableEq, Repr

def Reply.token (token : Token) : Reply :=
  .item (some (.token token))

/-- Items count as an answer only when no fault came after them. -/
def Scan.reply (scan : Scan) : Except Fault Reply :=
  match scan.fault with
  | some fault => .error fault
  | none => .ok (.items scan.items)

def Request.run (cursor : Cursor) : Request → Except Fault Reply × Cursor
  | next =>
      let (item, after) := cursor.next
      (item.map .item, after)
  | restOfLine => (.ok (.text cursor.restOfLine), cursor.toLineEnd)
  | drain =>
      let scan := cursor.drain
      (scan.reply, scan.cursor)
  | take limit =>
      let scan := cursor.take limit
      (scan.reply, scan.cursor)
  | advance => (.ok (.lookahead (cursor.skip 1).lookahead), cursor.skip 1)
  | lookingAt expected => (.ok (.truth (cursor.lookingAt expected)), cursor)
  | lineEnd => (.ok (.offset cursor.lineEnd), cursor)
  | word =>
      let (token, after) := cursor.word
      (token.map .token, after)
  | number => (.ok (.token cursor.number.1), cursor.number.2)
  | comment => (.ok (.token cursor.comment.1), cursor.comment.2)
  | chars count kind =>
      let (token, after) := cursor.chars count.toNat kind
      (token.map .token, after)

def runSession (cursor : Cursor) : List Request → List (Except Fault Reply × Cursor)
  | [] => []
  | request :: later =>
      let (reply, after) := request.run cursor
      (reply, after) :: runSession after later

end IRLexer
