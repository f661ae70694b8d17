import IRLexer.Proofs.Answering
import IRLexer.Proofs.Concatenation

/-!
# Progress

Every request for the next item lies further on than the one before, until there is none.  Together
with the answers that readers come to, this bounds what any request can take by what is left of the
source.
-/

namespace IRLexer

namespace Cursor

theorem next_moves {cursor : Cursor} {source : List Char} (hin : cursor.IsIn source) :
    (cursor.next.1 = .ok none ∧ cursor.next.2.offset = source.length ∧
      ∀ c ∈ cursor.rest, isBlank c = true) ∨
    (cursor.next.1 ≠ .ok none ∧ cursor.offset < cursor.next.2.offset) := by
  have hafter := hin.reaches cursor.reaches_next
  cases hlexeme : cursor.lexeme? with
  | none =>
      have hnext := next_of_lexeme?_eq_none hlexeme
      have hlength := hafter.length_eq
      rw [hnext, rest_skipBlanks_eq_nil hlexeme] at hlength
      rw [hnext]
      exact .inl ⟨rfl, hlength.symm, fun _ => isBlank_of_lexeme?_eq_none hlexeme⟩
  | some found =>
      have hnext := next_of_lexeme? hlexeme
      have hshorter := rest_lt_of_lexeme? hlexeme
      have hlength := hafter.length_eq
      have hbefore := hin.length_eq
      rw [hnext] at hlength ⊢
      refine .inr ⟨?_, ?_⟩
      · cases found.1.read <;> simp [Except.map]
      · simp only at hlength ⊢
        omega

theorem length_lexemes_le (cursor : Cursor) : cursor.lexemes.length ≤ cursor.rest.length := by
  fun_induction lexemes cursor with
  | case1 cursor hlexeme => exact Nat.zero_le _
  | case2 cursor lexeme after hlexeme ih =>
      have hshorter := rest_lt_of_lexeme? hlexeme
      rw [List.length_cons]
      omega

end Cursor

namespace Request

variable {cursor : Cursor}

theorem lexemes_run_next : (next.run cursor).2.lexemes = cursor.lexemes.tail := by
  cases hlexeme : cursor.lexeme? with
  | none =>
      have hrest := Cursor.rest_skipBlanks_eq_nil hlexeme
      simp only [run, Cursor.next_of_lexeme?_eq_none hlexeme, Cursor.lexemes_of_rest_eq_nil hrest,
        Cursor.lexemes_of_lexeme?_eq_none hlexeme, List.tail_nil]
  | some found =>
      rw [run_next_of_lexeme? hlexeme, Cursor.lexemes_of_lexeme? hlexeme, List.tail_cons]

theorem run_next_eq_none_iff : (next.run cursor).1 = .ok (.item none) ↔ cursor.lexemes = [] := by
  cases hlexeme : cursor.lexeme? with
  | none =>
      simp [run, Cursor.next_of_lexeme?_eq_none hlexeme,
        Cursor.lexemes_of_lexeme?_eq_none hlexeme, Except.map]
  | some found =>
      rw [run_next_of_lexeme? hlexeme, Cursor.lexemes_of_lexeme? hlexeme]
      cases found.1.read <;> simp [Except.map]

end Request

theorem answer_eq_none_iff {count index : Nat} {cursor : Cursor}
    {entry : Except Fault Reply × Cursor}
    (h : (runSession cursor (List.replicate count .next))[index]? = some entry) :
    entry.1 = .ok (.item none) ↔ cursor.lexemes.length ≤ index := by
  induction count generalizing cursor index with
  | zero => simp [runSession] at h
  | succ count ih =>
      cases index with
      | zero =>
          obtain rfl : Request.next.run cursor = entry := Option.some.inj h
          rw [Request.run_next_eq_none_iff, Nat.le_zero, List.length_eq_zero_iff]
      | succ index =>
          have hlater : (runSession (Request.next.run cursor).2
              (List.replicate count .next))[index]? = some entry := h
          rw [ih hlater, Request.lexemes_run_next, List.length_tail]
          omega

/--
At every point of a session every request comes to its answer.  The steps of a reader are bounded by
what is left of the source, and the loop that it could not leave at the end of the source is never
entered without a colon in sight.  Asking for the next item passes characters until there is none.
-/
theorem requests_make_progress (source : List Char) (requests : List Request) :
    ∀ cursor ∈ sessionCursors (Cursor.start source) requests,
      (∀ (request : Request) (control : Control), request.control? = some control →
        let reader (steps : Nat) := Reader.after steps (.start control (cursor.scanner source))
        (∃ steps ≤ source.length - cursor.offset + 4, ∃ given,
          (reader steps).control = .answered given ∧
            request.run cursor = (given.map .item, (reader steps).scanner.cursor)) ∧
        ∀ steps, (reader steps).control = .colon →
          ∃ index < 5, source[(reader steps).scanner.position + index]? = some ':') ∧
      (∀ request : Request, request.serve (cursor.scanner source) =
        some ((request.run cursor).1, (request.run cursor).2.scanner source)) ∧
      (∀ limit, source.length - cursor.offset < limit → cursor.take limit = cursor.drain) ∧
      ((cursor.next.1 = .ok none ∧ cursor.next.2.offset = source.length ∧
          ∀ c ∈ cursor.rest, isBlank c = true) ∨
        (cursor.next.1 ≠ .ok none ∧ cursor.offset < cursor.next.2.offset)) ∧
      ∃ calls ≤ source.length - cursor.offset, ∀ count index entry,
        (runSession cursor (List.replicate count .next))[index]? = some entry →
          (entry.1 = .ok (.item none) ↔ calls ≤ index) := by
  intro cursor hcursor
  have hin := (Cursor.start_isIn source).reaches (reaches_of_mem_sessionCursors hcursor)
  have hleft : source.length - cursor.offset = cursor.rest.length := by
    rw [hin.length_eq, Nat.add_sub_cancel_left]
  refine ⟨?_, Request.serve_eq hin, ?_, Cursor.next_moves hin, ?_⟩
  · intro request control hrequest reader
    have hstands : (Reader.start control (cursor.scanner source)).scanner.StandsIn source :=
      hin.standsIn_scanner
    have hcolon : (Reader.start control (cursor.scanner source)).ColonAhead source :=
      fun hloop => absurd (hloop ▸ hrequest) request.control?_ne_colon
    obtain ⟨steps, hsteps, hcontrol, hscanner⟩ := Reader.exists_answer hstands hcolon
    rw [Reader.result_start, hin.cursor_scanner] at hcontrol hscanner
    have hlater := hin.reaches (Request.reaches_run cursor request)
    rw [Request.run_eq_result hrequest] at hlater
    refine ⟨⟨steps, Nat.le_trans hsteps (Reader.bound_start_le _ _ _), _, hcontrol, ?_⟩, ?_⟩
    · rw [Request.run_eq_result hrequest, hscanner, hlater.cursor_scanner]
    · exact fun later => Reader.colonAhead_after hstands hcolon later
  · rw [hleft]
    exact fun limit => Cursor.take_eq_drain
  · rw [hleft]
    exact ⟨cursor.lexemes.length, cursor.length_lexemes_le, fun _ _ _ => answer_eq_none_iff⟩

theorem requests_make_progress_payload :
    (Reader.after 2 (.start .number (((Cursor.start ['-', 'N', 'a', 'N', ':', '8']).skip 1).scanner
      ['-', 'N', 'a', 'N', ':', '8']))).control = .colon ∧
    ∃ index < 5, ['-', 'N', 'a', 'N', ':', '8'][(Reader.after 2 (.start .number
      (((Cursor.start ['-', 'N', 'a', 'N', ':', '8']).skip 1).scanner
        ['-', 'N', 'a', 'N', ':', '8']))).scanner.position + index]? = some ':' :=
  ⟨rfl, ((requests_make_progress ['-', 'N', 'a', 'N', ':', '8'] [.advance] _
    (.tail _ (.head _))).1 .number .number rfl).2 2 rfl⟩

end IRLexer
