/-!
# Sets of code points

A text is a list of characters, and a character is a Unicode scalar value: any code point but the
surrogates, which are outside the domain.  A set of characters is kept as closed intervals of code
points in ascending order, so that membership can stop at the first interval that lies beyond the
code point asked for.  Both the order of a set and the separation of two sets are checked by going
through their intervals.
-/

namespace IRLexer

/-- The intervals `(first, last)` of a set of code points, ascending and disjoint. -/
abbrev CodePointSet := List (Nat × Nat)

namespace CodePointSet

def contains : CodePointSet → Nat → Bool
  | [], _ => false
  | (first, last) :: later, code =>
      if code < first then false
      else if code ≤ last then true
      else contains later code

theorem contains_cons (first last code : Nat) (later : CodePointSet) :
    contains ((first, last) :: later) code =
      if code < first then false else if code ≤ last then true else contains later code :=
  rfl

theorem exists_interval_of_contains {set : CodePointSet} {code : Nat}
    (h : set.contains code = true) :
    ∃ interval ∈ set, interval.1 ≤ code ∧ code ≤ interval.2 := by
  induction set with
  | nil => simp [contains] at h
  | cons interval later ih =>
      obtain ⟨first, last⟩ := interval
      rw [contains_cons] at h
      split at h
      · simp at h
      · split at h
        · exact ⟨(first, last), by simp, by simpa using by omega, by simpa⟩
        · obtain ⟨found, member, bounds⟩ := ih h
          exact ⟨found, List.mem_cons_of_mem _ member, bounds⟩

/-- No interval is empty, and each begins at or above the bound and beyond the one before it. -/
def isAscendingFrom (bound : Nat) : CodePointSet → Bool
  | [] => true
  | (first, last) :: later =>
      decide (bound ≤ first) && decide (first ≤ last) && isAscendingFrom (last + 1) later

theorem le_first_of_isAscendingFrom {set : CodePointSet} {bound : Nat}
    (h : set.isAscendingFrom bound = true) {interval : Nat × Nat} (member : interval ∈ set) :
    bound ≤ interval.1 := by
  induction set generalizing bound with
  | nil => simp at member
  | cons head later ih =>
      obtain ⟨first, last⟩ := head
      simp only [isAscendingFrom, Bool.and_eq_true, decide_eq_true_eq] at h
      rcases List.mem_cons.mp member with rfl | member
      · exact h.1.1
      · have beyond := ih h.2 member
        omega

theorem contains_iff {set : CodePointSet} {bound : Nat}
    (ascending : set.isAscendingFrom bound = true) {code : Nat} :
    set.contains code = true ↔ ∃ interval ∈ set, interval.1 ≤ code ∧ code ≤ interval.2 := by
  refine ⟨exists_interval_of_contains, ?_⟩
  rintro ⟨interval, member, lower, upper⟩
  induction set generalizing bound with
  | nil => simp at member
  | cons head later ih =>
      obtain ⟨first, last⟩ := head
      simp only [isAscendingFrom, Bool.and_eq_true, decide_eq_true_eq] at ascending
      rw [contains_cons]
      rcases List.mem_cons.mp member with rfl | member
      · simp [upper, Nat.not_lt.mpr lower]
      · have beyond := le_first_of_isAscendingFrom ascending.2 member
        rw [if_neg (by omega), if_neg (by omega)]
        exact ih ascending.2 member

def isSeparateFrom (first second : CodePointSet) : Bool :=
  first.all fun one => second.all fun other =>
    decide (one.2 < other.1) || decide (other.2 < one.1)

theorem contains_eq_false_of_isSeparateFrom (first second : CodePointSet) {code : Nat}
    (separate : first.isSeparateFrom second = true) (h : first.contains code = true) :
    second.contains code = false := by
  rw [Bool.eq_false_iff]
  intro both
  obtain ⟨one, oneMember, oneBounds⟩ := exists_interval_of_contains h
  obtain ⟨other, otherMember, otherBounds⟩ := exists_interval_of_contains both
  have apart := List.all_eq_true.mp (List.all_eq_true.mp separate one oneMember) other otherMember
  simp only [Bool.or_eq_true, decide_eq_true_eq] at apart
  omega

end CodePointSet

end IRLexer
