import IRLexer.Proofs.Position

/-!
# Reading line by line

Reading what is left of a line leaves the cursor in front of a line feed or at the end, on the line
where it was.  Moving over that line feed and reading again therefore goes through the lines of a
source one after the other, each with its number, and misses none of its characters.
-/

namespace IRLexer

namespace Cursor

theorem restOfLine_toLineEnd (cursor : Cursor) : cursor.toLineEnd.restOfLine = [] := by
  rcases cursor.lookahead_toLineEnd with hnewline | hend
  · rw [restOfLine, rest_of_lookahead hnewline]
    rfl
  · rw [restOfLine, List.head?_eq_none_iff.mp hend]
    rfl

theorem toLineEnd_toLineEnd (cursor : Cursor) : cursor.toLineEnd.toLineEnd = cursor.toLineEnd := by
  rw [toLineEnd_eq_skip, restOfLine_toLineEnd]
  exact cursor.toLineEnd.skip_zero

theorem comment_eq (cursor : Cursor) :
    cursor.comment =
      (⟨.comment, none, cursor.restOfLine, cursor.offset, cursor.line⟩, cursor.toLineEnd) := by
  have htext : cursor.rest.take (Form.comment.extent cursor.rest) = cursor.restOfLine :=
    take_length_takeWhile _ _
  simp only [comment, cut, Lexeme.token, htext, toLineEnd_eq_skip]
  rfl

theorem IsIn.isRun_restOfLine {cursor : Cursor} {source : List Char} (h : cursor.IsIn source) :
    IsRun (fun c => decide (c ≠ '\n')) source cursor.offset cursor.toLineEnd.offset := by
  rw [isRun_iff h.standsIn.offset_le, ← h.rest_eq]
  rfl

theorem IsIn.restOfLine_eq_slice {cursor : Cursor} {source : List Char} (h : cursor.IsIn source) :
    cursor.restOfLine = slice source cursor.offset cursor.toLineEnd.offset := by
  have hlength : cursor.toLineEnd.offset - cursor.offset = cursor.restOfLine.length :=
    Nat.add_sub_cancel_left _ _
  rw [slice_natCast, List.drop_take, hlength, ← h.rest_eq]
  exact (take_length_takeWhile _ _).symm

def lines (cursor : Cursor) : List (List Char × Nat) :=
  (cursor.rest.splitOn '\n').zipIdx cursor.line

variable {cursor : Cursor}

theorem lines_of_lookahead_eq_none (h : cursor.toLineEnd.lookahead = none) :
    cursor.lines = [(cursor.restOfLine, cursor.line)] := by
  have hwhole := cursor.restOfLine_append_rest_toLineEnd
  rw [List.head?_eq_none_iff.mp h, List.append_nil] at hwhole
  rw [lines, ← hwhole, List.splitOn_eq_singleton cursor.newline_not_mem_restOfLine]
  rfl

theorem lines_of_lookahead_eq_newline (h : cursor.toLineEnd.lookahead = some '\n') :
    cursor.lines = (cursor.restOfLine, cursor.line) :: (cursor.toLineEnd.skip 1).lines := by
  have hrest := rest_of_lookahead h
  have hwhole := cursor.restOfLine_append_rest_toLineEnd
  have hline : (cursor.toLineEnd.skip 1).line = cursor.line + 1 := by
    rw [skip, hrest]
    rfl
  rw [hrest] at hwhole
  rw [lines, lines, hline, ← hwhole,
    List.splitOn_append_cons_self_of_not_mem cursor.newline_not_mem_restOfLine, List.zipIdx_cons]

theorem rest_skip_toLineEnd_lt (h : cursor.toLineEnd.lookahead = some '\n') :
    (cursor.toLineEnd.skip 1).rest.length < cursor.rest.length := by
  have hle := cursor.reaches_toLineEnd.length_le
  rw [rest_of_lookahead h, List.length_cons] at hle
  exact hle

end Cursor

/-! ## The loop over the lines -/

/--
A loop of requests that comes to its end.  Every round reads what is left of the line and notes the
line it was read on; unless nothing is ahead then, the loop moves on by one character and goes round
again.
-/
inductive ReadsLines : Cursor → List (List Char × Nat) → Prop
  | last {cursor after : Cursor} {text : List Char}
      (hread : Request.restOfLine.run cursor = (.ok (.text text), after))
      (hend : after.lookahead = none) : ReadsLines cursor [(text, cursor.line)]
  | more {cursor after : Cursor} {text : List Char} {later : List (List Char × Nat)}
      (hread : Request.restOfLine.run cursor = (.ok (.text text), after))
      (hahead : after.lookahead ≠ none)
      (hlater : ReadsLines (Request.advance.run after).2 later) :
      ReadsLines cursor ((text, cursor.line) :: later)

theorem ReadsLines.eq_lines {cursor : Cursor} {readings : List (List Char × Nat)}
    (h : ReadsLines cursor readings) : readings = cursor.lines := by
  induction h with
  | last hread hend =>
      cases hread
      exact (Cursor.lines_of_lookahead_eq_none hend).symm
  | @more cursor after text later hread hahead hlater ih =>
      cases hread
      have hnewline := cursor.lookahead_toLineEnd.resolve_right hahead
      rw [Cursor.lines_of_lookahead_eq_newline hnewline, ih]
      rfl

theorem readsLines_lines (cursor : Cursor) : ReadsLines cursor cursor.lines := by
  -- On what is left, which every round but the last makes shorter by its line feed.
  induction hlength : cursor.rest.length using Nat.strongRecOn generalizing cursor with
  | ind length ih =>
      rcases cursor.lookahead_toLineEnd with hnewline | hend
      · have hshorter := Cursor.rest_skip_toLineEnd_lt hnewline
        rw [hlength] at hshorter
        rw [Cursor.lines_of_lookahead_eq_newline hnewline]
        exact .more rfl (by simp [hnewline]) (ih _ hshorter _ rfl)
      · rw [Cursor.lines_of_lookahead_eq_none hend]
        exact .last rfl hend

/--
The loop over the lines of a source comes to its end and reads every line with its number.  At any
point of a session, what is left of the line is read up to the next line feed and no further, once:
read again it is empty.  As a comment it has the same text and leaves the same cursor.
-/
theorem lines_read_in_order (source : List Char) :
    (∀ readings, ReadsLines (Cursor.start source) readings ↔
      readings = (source.splitOn '\n').zipIdx 1) ∧
    (∀ readings, ReadsLines (Cursor.start source) readings →
      ['\n'].intercalate (readings.map Prod.fst) = source) ∧
    ∀ requests, ∀ cursor ∈ sessionCursors (Cursor.start source) requests,
      ∃ text after, Request.restOfLine.run cursor = (.ok (.text text), after) ∧
        IsRun (fun c => decide (c ≠ '\n')) source cursor.offset after.offset ∧
        text = slice source cursor.offset after.offset ∧ '\n' ∉ text ∧
        after.line = cursor.line ∧
        (after.lookahead = some '\n' ∨ after.lookahead = none) ∧
        Request.restOfLine.run after = (.ok (.text []), after) ∧
        Request.comment.run cursor =
          (.ok (.token ⟨.comment, none, text, cursor.offset, cursor.line⟩), after) := by
  refine ⟨?_, ?_, ?_⟩
  · intro readings
    constructor
    · intro h
      exact h.eq_lines
    · rintro rfl
      exact readsLines_lines (Cursor.start source)
  · intro readings h
    rw [h.eq_lines, Cursor.lines, List.zipIdx_map_fst]
    exact List.intercalate_splitOn '\n'
  · intro requests cursor hcursor
    have hin := (Cursor.start_isIn source).reaches (reaches_of_mem_sessionCursors hcursor)
    refine ⟨cursor.restOfLine, cursor.toLineEnd, rfl, hin.isRun_restOfLine,
      hin.restOfLine_eq_slice, cursor.newline_not_mem_restOfLine, rfl,
      cursor.lookahead_toLineEnd, ?_, ?_⟩
    · simp only [Request.run, Cursor.restOfLine_toLineEnd, Cursor.toLineEnd_toLineEnd]
    · simp only [Request.run, Cursor.comment_eq]

theorem lines_read_in_order_blank :
    ReadsLines (Cursor.start ['a', '\n', '\n']) [(['a'], 1), ([], 2), ([], 3)] ∧
    ['\n'].intercalate [['a'], [], []] = ['a', '\n', '\n'] ∧
    ∃ text after,
      Request.restOfLine.run ⟨2, 2, ['\n']⟩ = (.ok (.text text), after) ∧ after.line = 2 ∧
        Request.comment.run ⟨2, 2, ['\n']⟩ =
          (.ok (.token ⟨.comment, none, text, 2, 2⟩), after) := by
  have hlines := lines_read_in_order ['a', '\n', '\n']
  have hloop := (hlines.1 [(['a'], 1), ([], 2), ([], 3)]).mpr rfl
  obtain ⟨text, after, hread, -, -, -, hline, -, -, hcomment⟩ :=
    hlines.2.2 [.chars 2 .dot] ⟨2, 2, ['\n']⟩ (.tail _ (.head _))
  exact ⟨hloop, hlines.2.1 _ hloop, text, after, hread, hline, hcomment⟩

end IRLexer
