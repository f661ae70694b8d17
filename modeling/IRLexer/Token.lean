import IRLexer.Text.Quoted
import IRLexer.ValueType

/-!
# Tokens

A token has a kind, the text it covers and the place where it starts.  Kinds that stand for a
decoded word carry a payload; for the textual kinds the text is all there is to know.
-/

namespace IRLexer

inductive Kind
  | comment
  | leftParen | rightParen | leftBrace | rightBrace
  | comma | dot | colon | equal | arrow
  | float | integer
  | type | value | block | stackSlot | jumpTable | funcRef | sigRef
  | identifier
  deriving DecidableEq, Repr

namespace Kind

def all : List Kind :=
  [
    comment, leftParen, rightParen, leftBrace, rightBrace, comma, dot, colon, equal, arrow,
    float, integer, type, value, block, stackSlot, jumpTable, funcRef, sigRef, identifier
  ]

def name : Kind → String
  | comment => "COMMENT"
  | leftParen => "LPAR"
  | rightParen => "RPAR"
  | leftBrace => "LBRACE"
  | rightBrace => "RBRACE"
  | comma => "COMMA"
  | dot => "DOT"
  | colon => "COLON"
  | equal => "EQUAL"
  | arrow => "ARROW"
  | float => "FLOAT"
  | integer => "INTEGER"
  | type => "TYPE"
  | value => "VALUE"
  | block => "EBB"
  | stackSlot => "STACK_SLOT"
  | jumpTable => "JUMP_TABLE"
  | funcRef => "FUNC_REF"
  | sigRef => "SIG_REF"
  | identifier => "IDENTIFIER"

def ofName? (name : String) : Option Kind :=
  all.find? fun kind => kind.name = name

def isTextual : Kind → Bool
  | comment | float | integer | identifier => true
  | _ => false

end Kind

/-- Values are numbered in two spaces; one number names a different value in each. -/
inductive Numbering
  | direct
  | table
  deriving DecidableEq, Repr

inductive Payload
  | value (numbering : Numbering) (number : Int)
  | block (number : Int)
  | index (number : Int)
  | type (shape : ValueType)
  deriving DecidableEq, Repr

def Payload.spelling : Payload → List Char
  | .value .direct number => 'v' :: Decimal.integer number
  | .value .table number => 'v' :: 'x' :: Decimal.integer number
  | .block number => 'e' :: 'b' :: 'b' :: Decimal.integer number
  | .index number => Decimal.integer number
  | .type shape => shape.spelling

/-! ## Tokens and errors -/

structure Token where
  kind : Kind
  payload : Option Payload
  text : List Char
  start : Nat
  line : Nat
  deriving DecidableEq, Repr

def Token.stop (token : Token) : Nat :=
  token.start + token.text.length

structure CharError where
  char : Char
  offset : Nat
  line : Nat
  deriving DecidableEq, Repr

inductive Item
  | token (token : Token)
  | invalid (error : CharError)
  deriving DecidableEq, Repr

def abbreviate (text : List Char) : List Char :=
  if 20 < text.length then text.take 17 ++ ['.', '.', '.'] else text

def describeToken (kind : Kind) (payload : Option Payload) (text : List Char) : String :=
  let shown :=
    match payload with
    | some payload => payload.spelling
    | none => Quoted.encode (abbreviate text)
  "Token(" ++ kind.name ++ ", " ++ String.ofList shown ++ ")"

def describeLine (line : Int) : String :=
  "line " ++ String.ofList (Decimal.integer line)

def describeInvalid (char : List Char) : String :=
  "invalid character " ++ String.ofList (Quoted.encode char)

def Token.describe (token : Token) : String :=
  describeToken token.kind token.payload token.text

def CharError.describe (error : CharError) : String :=
  describeLine error.line ++ ": " ++ describeInvalid [error.char]

end IRLexer
