import Mathlib.Data.List.TakeWhile

/-!
# Maximal runs

A run is a stretch of a text whose characters all pass a test.  It is maximal on the right when the
text ends with it or the next character fails the test.  A maximal run is settled by where it
starts, and it is what taking characters while they pass the test takes.
-/

namespace IRLexer

theorem take_length_takeWhile (test : Char → Bool) (text : List Char) :
    text.take (text.takeWhile test).length = text.takeWhile test :=
  (List.prefix_iff_eq_take.mp (List.takeWhile_prefix test)).symm

theorem drop_length_takeWhile (test : Char → Bool) (text : List Char) :
    text.drop (text.takeWhile test).length = text.dropWhile test := by
  calc
    text.drop (text.takeWhile test).length
      = (text.takeWhile test ++ text.dropWhile test).drop (text.takeWhile test).length := by
        rw [List.takeWhile_append_dropWhile]
    _ = text.dropWhile test := List.drop_left

theorem length_takeWhile_le (test : Char → Bool) (text : List Char) :
    (text.takeWhile test).length ≤ text.length :=
  (List.takeWhile_prefix test).length_le

theorem takeWhile_append_of_head {test : Char → Bool} {text later : List Char}
    (hinside : ∀ c ∈ text, test c = true) (hlater : ∀ c, later.head? = some c → test c = false) :
    (text ++ later).takeWhile test = text := by
  have hnone : later.takeWhile test = [] := by
    cases later with
    | nil => rfl
    | cons c later =>
        have hfails := hlater c rfl
        exact List.takeWhile_cons_of_neg (by simp [hfails])
  rw [List.takeWhile_append_of_pos hinside, hnone, List.append_nil]

/-! ## Runs by offsets -/

/-- The characters from `start` up to `stop` pass the test, and no character at `stop` does. -/
structure IsRun (test : Char → Bool) (text : List Char) (start stop : Nat) : Prop where
  start_le : start ≤ stop
  stop_le : stop ≤ text.length
  inside : ∀ offset c, start ≤ offset → offset < stop → text[offset]? = some c → test c = true
  boundary : ∀ c, text[stop]? = some c → test c = false

namespace IsRun

variable {test : Char → Bool} {text : List Char} {start stop : Nat}

theorem stop_le_stop {other : Nat} (hfirst : IsRun test text start stop)
    (hsecond : IsRun test text start other) : stop ≤ other := by
  apply Nat.le_of_not_lt
  intro hlater
  have hlt : other < text.length := by
    have := hfirst.stop_le
    omega
  have hchar : text[other]? = some text[other] := List.getElem?_eq_getElem hlt
  have hinside := hfirst.inside other _ hsecond.start_le (by omega) hchar
  have houtside := hsecond.boundary _ hchar
  rw [hinside] at houtside
  contradiction

theorem stop_eq {other : Nat} (hfirst : IsRun test text start stop)
    (hsecond : IsRun test text start other) : stop = other :=
  Nat.le_antisymm (hfirst.stop_le_stop hsecond) (hsecond.stop_le_stop hfirst)

end IsRun

private theorem getElem?_length_takeWhile {test : Char → Bool} {text : List Char} {c : Char}
    (h : text[(text.takeWhile test).length]? = some c) : test c = false := by
  induction text with
  | nil => simp at h
  | cons head tail ih =>
      by_cases htest : test head = true
      · simp only [List.takeWhile_cons_of_pos htest, List.length_cons,
          List.getElem?_cons_succ] at h
        exact ih h
      · simp only [List.takeWhile_cons_of_neg htest, List.length_nil,
          List.getElem?_cons_zero, Option.some.injEq] at h
        rw [← h]
        simpa using htest

theorem isRun_takeWhile (test : Char → Bool) {text : List Char} {start : Nat}
    (h : start ≤ text.length) :
    IsRun test text start (start + ((text.drop start).takeWhile test).length) where
  start_le := Nat.le_add_right _ _
  stop_le := by
    have hle := length_takeWhile_le test (text.drop start)
    rw [List.length_drop] at hle
    omega
  inside := by
    intro offset c hstart hstop hchar
    have hmem : c ∈ (text.drop start).takeWhile test := by
      apply List.mem_of_getElem? (i := offset - start)
      rw [← take_length_takeWhile, List.getElem?_take_of_lt (by omega), List.getElem?_drop,
        Nat.add_sub_cancel' hstart]
      exact hchar
    exact List.mem_takeWhile_imp hmem
  boundary := by
    intro c hchar
    rw [← List.getElem?_drop] at hchar
    exact getElem?_length_takeWhile hchar

theorem isRun_iff {test : Char → Bool} {text : List Char} {start stop : Nat}
    (h : start ≤ text.length) :
    IsRun test text start stop ↔ stop = start + ((text.drop start).takeWhile test).length := by
  constructor
  · intro hrun
    exact hrun.stop_eq (isRun_takeWhile test h)
  · rintro rfl
    exact isRun_takeWhile test h

end IRLexer
