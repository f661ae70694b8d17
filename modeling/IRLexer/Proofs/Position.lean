import IRLexer.Proofs.Movement
import IRLexer.Text.Slice

/-!
# Positions in a source

A session starts before the first character of its source.  Whatever is requested and whatever
faults are met, its cursor keeps standing in that source, never turns back and rests at the end, and
every item that is answered carries the place and the text of its own stretch of the source.
-/

namespace IRLexer

/-- The lookahead and the line of a cursor are those that its offset has in the source. -/
structure Cursor.StandsIn (cursor : Cursor) (source : List Char) : Prop where
  offset_le : cursor.offset ≤ source.length
  lookahead_eq : cursor.lookahead = source[cursor.offset]?
  lookahead_eq_none_iff : cursor.lookahead = none ↔ cursor.offset = source.length
  line_eq : cursor.line = 1 + (source.take cursor.offset).count '\n'

/-- The line and the text of an item are those that its span has in the source. -/
def Item.LiesIn (item : Item) (source : List Char) : Prop :=
  match item with
  | .token found =>
      found.start ≤ found.stop ∧ found.stop ≤ source.length ∧
        found.line = 1 + (source.take found.start).count '\n' ∧
        found.text = slice source found.start found.stop
  | .invalid error =>
      error.offset < source.length ∧ source[error.offset]? = some error.char ∧
        error.line = 1 + (source.take error.offset).count '\n'

namespace Cursor

theorem IsIn.rest_eq {cursor : Cursor} {source : List Char} (h : cursor.IsIn source) :
    cursor.rest = source.drop cursor.offset := by
  obtain ⟨behind, hwhole, hoffset, -⟩ := h
  rw [hwhole, hoffset, List.drop_left]

theorem IsIn.length_eq {cursor : Cursor} {source : List Char} (h : cursor.IsIn source) :
    source.length = cursor.offset + cursor.rest.length := by
  obtain ⟨behind, hwhole, hoffset, -⟩ := h
  rw [hwhole, List.length_append, hoffset]

theorem IsIn.standsIn {cursor : Cursor} {source : List Char} (h : cursor.IsIn source) :
    cursor.StandsIn source := by
  have hlength := h.length_eq
  obtain ⟨behind, hwhole, hoffset, hline⟩ := h
  constructor
  · omega
  · rw [hwhole, hoffset, List.getElem?_append_right (Nat.le_refl _), Nat.sub_self, lookahead,
      List.head?_eq_getElem?]
  · rw [lookahead, List.head?_eq_none_iff, ← List.length_eq_zero_iff]
    omega
  · rw [hline, hwhole, hoffset, List.take_left]

end Cursor

theorem Item.StandsAt.liesIn {item : Item} {cursor : Cursor} {source : List Char}
    (hin : cursor.IsIn source) (h : item.StandsAt cursor) : item.LiesIn source := by
  have hline := hin.standsIn.line_eq
  have hle := hin.standsIn.offset_le
  have hrest := hin.rest_eq
  cases item with
  | token found =>
      obtain ⟨hstart, hfoundLine, htext⟩ := h
      have hlength := htext.length_le
      rw [hrest, List.length_drop] at hlength
      refine ⟨Nat.le_add_right _ _, ?_, ?_, ?_⟩
      · simp only [Token.stop]
        omega
      · rw [hfoundLine, hstart, hline]
      · rw [slice_natCast, List.drop_take, hstart, ← hrest, Token.stop, hstart,
          Nat.add_sub_cancel_left]
        exact List.prefix_iff_eq_take.mp htext
  | invalid error =>
      obtain ⟨hoffset, herrorLine, hchar⟩ := h
      have hget : source[error.offset]? = some error.char := by
        rw [hoffset, ← hin.standsIn.lookahead_eq, hchar]
      refine ⟨(List.getElem?_eq_some_iff.mp hget).1, hget, ?_⟩
      rw [herrorLine, hoffset, hline]

theorem Cursor.Passes.liesIn {item : Item} {cursor : Cursor} {source : List Char}
    (hin : cursor.IsIn source) (h : cursor.Passes item) : item.LiesIn source := by
  obtain ⟨place, hreach, hstands⟩ := h
  exact hstands.liesIn (hin.reaches hreach)

/-! ## Sessions -/

def sessionCursors (cursor : Cursor) (requests : List Request) : List Cursor :=
  cursor :: (runSession cursor requests).map Prod.snd

theorem sessionCursors_cons (cursor : Cursor) (request : Request) (later : List Request) :
    sessionCursors cursor (request :: later) =
      cursor :: sessionCursors (request.run cursor).2 later :=
  rfl

theorem reaches_of_mem_sessionCursors {cursor later : Cursor} {requests : List Request}
    (h : later ∈ sessionCursors cursor requests) : cursor.Reaches later := by
  induction requests generalizing cursor with
  | nil =>
      rw [List.mem_singleton.mp h]
      exact .refl cursor
  | cons request requests ih =>
      rw [sessionCursors_cons] at h
      rcases List.mem_cons.mp h with rfl | hlater
      · exact .refl later
      · exact (Request.reaches_run cursor request).trans (ih hlater)

theorem sessionCursors_pairwise (cursor : Cursor) (requests : List Request) :
    (sessionCursors cursor requests).Pairwise Cursor.Reaches := by
  induction requests generalizing cursor with
  | nil => exact List.pairwise_singleton _ _
  | cons request requests ih =>
      rw [sessionCursors_cons, List.pairwise_cons]
      constructor
      · intro later hlater
        exact (Request.reaches_run cursor request).trans (reaches_of_mem_sessionCursors hlater)
      · exact ih (request.run cursor).2

theorem passes_of_mem_runSession {cursor : Cursor} {requests : List Request}
    {entry : Except Fault Reply × Cursor} {item : Item}
    (hentry : entry ∈ runSession cursor requests) (hitem : item ∈ answeredItems entry.1) :
    cursor.Passes item := by
  induction requests generalizing cursor with
  | nil => simp [runSession] at hentry
  | cons request requests ih =>
      rcases List.mem_cons.mp hentry with rfl | hlater
      · exact Request.passes_of_mem_run hitem
      · exact (ih hlater).of_reaches (Request.reaches_run cursor request)

end IRLexer
