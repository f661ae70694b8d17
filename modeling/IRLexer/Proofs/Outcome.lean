import IRLexer.Proofs.Movement

/-!
# Outcomes of a scan

Asking for the next item until nothing is left brings a list of outcomes.  A fault is an outcome
like any other: by the time it is met its word lies behind the cursor, and the scan goes on there.
The outcomes are the lexemes of the source, each read by itself.
-/

namespace IRLexer

inductive ScanOutcome
  | item (item : Item)
  /-- A fault, and the characters other than blanks that the request passed over. -/
  | fault (fault : Fault) (start stop : Nat)
  deriving DecidableEq, Repr

def ScanOutcome.item? : ScanOutcome → Option Item
  | .item found => some found
  | .fault .. => none

def Item.isComment : Item → Bool
  | .token found => found.kind = .comment
  | .invalid _ => false

namespace Cursor

theorem next_of_lexeme?_eq_none {cursor : Cursor} (h : cursor.lexeme? = none) :
    cursor.next = (.ok none, cursor.skipBlanks) := by
  simp [next, h]

theorem next_of_lexeme? {cursor after : Cursor} {lexeme : Lexeme}
    (h : cursor.lexeme? = some (lexeme, after)) :
    cursor.next = (lexeme.read.map some, after) := by
  simp [next, h]

theorem rest_lt_of_next {cursor after : Cursor} {result : Except Fault (Option Item)}
    (h : cursor.next = (result, after)) (hresult : result ≠ .ok none) :
    after.rest.length < cursor.rest.length := by
  cases hlexeme : cursor.lexeme? with
  | none =>
      rw [next_of_lexeme?_eq_none hlexeme] at h
      exact absurd (Prod.mk.inj h).1.symm hresult
  | some found =>
      rw [next_of_lexeme? hlexeme] at h
      rw [← (Prod.mk.inj h).2]
      exact rest_lt_of_lexeme? hlexeme

def outcomes (cursor : Cursor) : List ScanOutcome :=
  match _h : cursor.next with
  | (.ok none, _) => []
  | (.ok (some item), after) => .item item :: after.outcomes
  | (.error fault, after) =>
      .fault fault cursor.skipBlanks.offset after.offset :: after.outcomes
termination_by cursor.rest.length
decreasing_by
  · exact rest_lt_of_next _h (by simp)
  · exact rest_lt_of_next _h (by simp)

def exhausted (cursor : Cursor) : Cursor :=
  match _h : cursor.next with
  | (.ok none, after) => after
  | (.ok (some _), after) => after.exhausted
  | (.error _, after) => after.exhausted
termination_by cursor.rest.length
decreasing_by
  · exact rest_lt_of_next _h (by simp)
  · exact rest_lt_of_next _h (by simp)

end Cursor

def Lexeme.outcome (lexeme : Lexeme) : ScanOutcome :=
  match lexeme.read with
  | .ok item => .item item
  | .error fault => .fault fault lexeme.start (lexeme.start + lexeme.text.length)

namespace Cursor

theorem place_of_lexeme? {cursor after : Cursor} {lexeme : Lexeme}
    (h : cursor.lexeme? = some (lexeme, after)) :
    lexeme.start = cursor.skipBlanks.offset ∧
      after.offset = lexeme.start + lexeme.text.length := by
  obtain ⟨first, later, -, hcut⟩ := eq_cut_of_lexeme? h
  obtain ⟨rfl, rfl⟩ := Prod.mk.inj hcut
  exact ⟨rfl, rfl⟩

theorem lexemes_of_lexeme?_eq_none {cursor : Cursor} (h : cursor.lexeme? = none) :
    cursor.lexemes = [] := by
  rw [lexemes]
  split <;> simp_all

theorem lexemes_of_lexeme? {cursor after : Cursor} {lexeme : Lexeme}
    (h : cursor.lexeme? = some (lexeme, after)) : cursor.lexemes = lexeme :: after.lexemes := by
  rw [lexemes]
  split <;> simp_all

theorem outcomes_of_lexeme?_eq_none {cursor : Cursor} (h : cursor.lexeme? = none) :
    cursor.outcomes = [] := by
  rw [outcomes, next_of_lexeme?_eq_none h]

theorem outcomes_of_lexeme? {cursor after : Cursor} {lexeme : Lexeme}
    (h : cursor.lexeme? = some (lexeme, after)) :
    cursor.outcomes = lexeme.outcome :: after.outcomes := by
  obtain ⟨hstart, hstop⟩ := place_of_lexeme? h
  rw [outcomes, next_of_lexeme? h]
  cases hread : lexeme.read with
  | error fault => simp [Except.map, Lexeme.outcome, hread, hstart, hstop]
  | ok item => simp [Except.map, Lexeme.outcome, hread]

theorem outcomes_eq_map_lexemes (cursor : Cursor) :
    cursor.outcomes = cursor.lexemes.map Lexeme.outcome := by
  fun_induction lexemes cursor with
  | case1 cursor hlexeme => exact outcomes_of_lexeme?_eq_none hlexeme
  | case2 cursor lexeme after hlexeme ih =>
      rw [outcomes_of_lexeme? hlexeme, ih, List.map_cons]

theorem exhausted_of_lexeme?_eq_none {cursor : Cursor} (h : cursor.lexeme? = none) :
    cursor.exhausted = cursor.skipBlanks := by
  rw [exhausted, next_of_lexeme?_eq_none h]

theorem exhausted_of_lexeme? {cursor after : Cursor} {lexeme : Lexeme}
    (h : cursor.lexeme? = some (lexeme, after)) : cursor.exhausted = after.exhausted := by
  rw [exhausted, next_of_lexeme? h]
  cases hread : lexeme.read <;> rfl

theorem reaches_exhausted (cursor : Cursor) : cursor.Reaches cursor.exhausted := by
  fun_induction lexemes cursor with
  | case1 cursor hlexeme =>
      rw [exhausted_of_lexeme?_eq_none hlexeme]
      exact cursor.reaches_skipBlanks
  | case2 cursor lexeme after hlexeme ih =>
      rw [exhausted_of_lexeme? hlexeme]
      exact (reaches_of_lexeme? hlexeme).trans ih

theorem rest_skipBlanks_eq_nil {cursor : Cursor} (h : cursor.lexeme? = none) :
    cursor.skipBlanks.rest = [] := by
  unfold lexeme? at h
  split at h
  · assumption
  · contradiction

theorem lookahead_exhausted (cursor : Cursor) : cursor.exhausted.lookahead = none := by
  fun_induction lexemes cursor with
  | case1 cursor hlexeme =>
      rw [exhausted_of_lexeme?_eq_none hlexeme, lookahead, rest_skipBlanks_eq_nil hlexeme]
      rfl
  | case2 cursor lexeme after hlexeme ih =>
      rw [exhausted_of_lexeme? hlexeme]
      exact ih

end Cursor

namespace Request

theorem run_next_of_lexeme? {cursor after : Cursor} {lexeme : Lexeme}
    (h : cursor.lexeme? = some (lexeme, after)) :
    next.run cursor = (lexeme.read.map fun item => .item (some item), after) := by
  simp only [run, Cursor.next_of_lexeme? h]
  cases lexeme.read <;> rfl

end Request

end IRLexer
