import IRLexer.NumberedName
import IRLexer.Token

/-!
# The meaning of words

A word that is the printed form of a numbered entity or of a value type means that entity or type.
A type name may also carry the lane count one.  Every other word is an identifier and has no
meaning of its own.
-/

namespace IRLexer

inductive EntitySpace
  | value | tableValue | block | stackSlot | jumpTable | funcRef | sigRef
  deriving DecidableEq, Repr

namespace EntitySpace

def all : List EntitySpace :=
  [value, tableValue, block, stackSlot, jumpTable, funcRef, sigRef]

def sigil : EntitySpace → List Char
  | value => ['v']
  | tableValue => ['v', 'x']
  | block => ['e', 'b', 'b']
  | stackSlot => ['s', 's']
  | jumpTable => ['j', 't']
  | funcRef => ['f', 'n']
  | sigRef => ['s', 'i', 'g']

def ofSigil? (name : List Char) : Option EntitySpace :=
  all.find? fun space => space.sigil = name

/--
The largest number of a space.  The two spaces of values share 32 bits, one of which tells them
apart, and the last number of each is reserved; so is the last number of a block.
-/
def maxNumber : EntitySpace → Nat
  | value | tableValue => maxIndex / 2 - 1
  | block => maxIndex - 1
  | stackSlot | jumpTable | funcRef | sigRef => maxIndex

def kind : EntitySpace → Kind
  | value | tableValue => .value
  | block => .block
  | stackSlot => .stackSlot
  | jumpTable => .jumpTable
  | funcRef => .funcRef
  | sigRef => .sigRef

def payload (space : EntitySpace) (number : Int) : Payload :=
  match space with
  | value => .value .direct number
  | tableValue => .value .table number
  | block => .block number
  | stackSlot | jumpTable | funcRef | sigRef => .index number

def entity? (space : EntitySpace) (number : Int) : Option Payload :=
  if 0 ≤ number ∧ number ≤ space.maxNumber then some (space.payload number) else none

end EntitySpace

/-! ## Meanings -/

inductive Meaning
  | entity (space : EntitySpace) (number : Nat)
  | type (shape : ValueType)
  deriving DecidableEq, Repr

namespace Meaning

def kind : Meaning → Kind
  | entity space _ => space.kind
  | type _ => .type

def payload : Meaning → Payload
  | entity space number => space.payload number
  | type shape => .type shape

def spelling : Meaning → List Char
  | entity space number => space.sigil ++ Decimal.natural number
  | type shape => shape.spelling

def ofEntityName? (stem : List Char) (number : Nat) : Option Meaning :=
  (EntitySpace.ofSigil? stem).bind fun space =>
    if number ≤ space.maxNumber then some (entity space number) else none

/--
A stem that ends in `x` names a vector: what precedes the `x` is the lane type and the number is
the lane count.  Any other name of a type is the name of a scalar.
-/
def ofTypeName? (name stem : List Char) (number : Nat) : Option Meaning :=
  if stem.getLast? = some 'x' then
    if number ≤ maxLaneCount then
      ((ValueType.scalar? stem.dropLast).bind fun lane => lane.times? number).map type
    else none
  else (ValueType.scalar? name).map type

def ofWord? (word : List Char) : Except Fault (Option Meaning) :=
  (NumberedName.split? word).map fun split =>
    split.bind fun (stem, number) =>
      (ofEntityName? stem number).or (ofTypeName? word stem number)

end Meaning

end IRLexer
