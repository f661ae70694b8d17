/-!
# Slices by signed offsets

An offset below zero counts from the end of the text.  Offsets outside the text are moved to its
nearer end, so every pair of offsets has a slice.
-/

namespace IRLexer

/-- The place in a text of the given length that a signed offset names. -/
def boundary (length : Nat) (offset : Int) : Nat :=
  if offset < 0 then (offset + length).toNat else min offset.toNat length

def slice (text : List Char) (start stop : Int) : List Char :=
  (text.take (boundary text.length stop)).drop (boundary text.length start)

theorem slice_natCast (text : List Char) (start stop : Nat) :
    slice text start stop = (text.take stop).drop start := by
  have inside (offset : Nat) : boundary text.length offset = min offset text.length := by
    unfold boundary
    rw [if_neg (by omega), Int.toNat_natCast]
  rw [slice, inside, inside, ← List.take_eq_take_min]
  by_cases hstart : start ≤ text.length
  · rw [Nat.min_eq_left hstart]
  · have hlength : (text.take stop).length ≤ text.length := List.length_take_le' stop text
    rw [List.drop_eq_nil_of_le (by omega), List.drop_eq_nil_of_le (by omega)]

end IRLexer
