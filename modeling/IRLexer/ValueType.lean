import IRLexer.Text.Decimal

/-!
# Value types

A value type has a lane kind, a lane width in bits and a number of lanes.  Scalars have one lane.
Vectors arise from scalars by lane multiplication, which admits powers of two up to `maxLanes`.
-/

namespace IRLexer

def maxLanes : Int := 256

/-- The largest lane count that a type name may carry: lane counts have sixteen bits. -/
def maxLaneCount : Nat := UInt16.size - 1

structure ValueType where
  /-- The letters in front of the width: `i` for integers, `f` for floats, `b` for booleans. -/
  laneKind : String
  laneBits : Int
  lanes : Int := 1
  deriving DecidableEq, Repr

def isPowerOfTwo (number : Int) : Bool :=
  0 < number && number.toNat &&& (number.toNat - 1) == 0

namespace ValueType

def isVector (type : ValueType) : Bool :=
  1 < type.lanes

def bits (type : ValueType) : Int :=
  type.laneBits * type.lanes

def laneType (type : ValueType) : ValueType :=
  ⟨type.laneKind, type.laneBits, 1⟩

def times? (type : ValueType) (factor : Int) : Option ValueType :=
  if isPowerOfTwo factor && type.lanes * factor ≤ maxLanes then
    some ⟨type.laneKind, type.laneBits, type.lanes * factor⟩
  else none

/-- A scalar is spelled by its lane, such as `i32`; a vector adds its lane count, as in `i32x4`. -/
def spelling (type : ValueType) : List Char :=
  type.laneKind.toList ++ Decimal.integer type.laneBits ++
    if type.isVector then 'x' :: Decimal.integer type.lanes else []

def scalars : List ValueType :=
  [
    ⟨"i", 8, 1⟩, ⟨"i", 16, 1⟩, ⟨"i", 32, 1⟩, ⟨"i", 64, 1⟩,
    ⟨"f", 32, 1⟩, ⟨"f", 64, 1⟩,
    ⟨"b", 1, 1⟩, ⟨"b", 8, 1⟩, ⟨"b", 16, 1⟩, ⟨"b", 32, 1⟩, ⟨"b", 64, 1⟩
  ]

def scalar? (name : List Char) : Option ValueType :=
  scalars.find? fun type => type.spelling = name

end ValueType

end IRLexer
