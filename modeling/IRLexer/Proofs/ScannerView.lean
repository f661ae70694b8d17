import IRLexer.Proofs.Position
import IRLexer.Scanner

/-!
# What a scanner sees

A scanner reads its source by offsets from the beginning and keeps a lookahead that it has fetched
before.  Both agree with the characters that a cursor at the same place has in front of it, for as
long as the lookahead and the line are those of the position, and no operation breaks that.
-/

namespace IRLexer

/-- The lookahead and the line of a scanner are those that its position has in the source. -/
structure Scanner.StandsIn (scanner : Scanner) (source : List Char) : Prop where
  source_eq : scanner.source = source
  position_le : scanner.position ≤ source.length
  lookahead_eq : scanner.lookahead = source[scanner.position]?
  line_eq : scanner.line = 1 + (source.take scanner.position).count '\n'

theorem findIdx_eq_length_takeWhile (test : Char → Bool) (text : List Char) :
    text.findIdx test = (text.takeWhile fun c => !test c).length := by
  rw [List.takeWhile_eq_take_findIdx_not, List.length_take]
  simp only [Bool.not_not]
  exact (Nat.min_eq_left List.findIdx_le_length).symm

namespace Scanner

theorem text_eq (scanner : Scanner) (first last : Nat) :
    scanner.text first last = (scanner.source.drop first).take (last - first) := by
  rw [text, slice_natCast, List.drop_take]

theorem lookingAt_eq (scanner : Scanner) (expected : List Char) :
    scanner.lookingAt expected = scanner.cursor.lookingAt expected := by
  rw [Bool.eq_iff_iff, lookingAt, decide_eq_true_eq, text_eq, Nat.add_sub_cancel_left,
    Cursor.lookingAt, List.isPrefixOf_iff_prefix, List.prefix_iff_eq_take, eq_comm]
  rfl

namespace StandsIn

variable {scanner : Scanner} {source : List Char}

theorem isIn (h : scanner.StandsIn source) : scanner.cursor.IsIn source := by
  refine ⟨source.take scanner.position, ?_, ?_, h.line_eq⟩
  · rw [cursor, h.source_eq, List.take_append_drop]
  · rw [List.length_take, Nat.min_eq_left h.position_le]
    rfl

theorem lookahead_cursor (h : scanner.StandsIn source) :
    scanner.cursor.lookahead = scanner.lookahead := by
  rw [h.lookahead_eq, Cursor.lookahead, cursor, h.source_eq, List.head?_drop]

theorem advance (h : scanner.StandsIn source) : scanner.advance.StandsIn source := by
  cases hahead : scanner.lookahead with
  | none => rwa [Scanner.advance, hahead]
  | some passed =>
      have hget : source[scanner.position]? = some passed := h.lookahead_eq.symm.trans hahead
      have hlt := (List.getElem?_eq_some_iff.mp hget).1
      simp only [Scanner.advance, hahead]
      refine ⟨h.source_eq, hlt, by rw [h.source_eq], ?_⟩
      rw [List.take_add_one, hget, Option.toList_some, List.count_append, List.count_singleton,
        h.line_eq]
      by_cases hnewline : passed = '\n' <;> simp [hnewline, Nat.add_assoc]

theorem cursor_advance (h : scanner.StandsIn source) :
    scanner.advance.cursor = scanner.cursor.skip 1 := by
  have hlookahead := h.lookahead_cursor
  cases hahead : scanner.lookahead with
  | none =>
      rw [hahead] at hlookahead
      rw [Cursor.skip_of_lookahead_eq_none hlookahead, Scanner.advance, hahead]
  | some passed =>
      rw [hahead] at hlookahead
      have hrest := Cursor.rest_of_lookahead hlookahead
      simp only [Scanner.advance, hahead, cursor, Cursor.skip] at hrest ⊢
      rw [hrest]
      by_cases hnewline : passed = '\n' <;> simp [hnewline]

theorem lineEnd_eq (h : scanner.StandsIn source) : scanner.lineEnd = scanner.cursor.lineEnd := by
  have hlength : scanner.cursor.restOfLine.length =
      (scanner.source.drop scanner.position).findIdx fun c => decide (c = '\n') := by
    rw [findIdx_eq_length_takeWhile]
    simp [Cursor.restOfLine, cursor]
  rw [Cursor.lineEnd, hlength, lineEnd]
  split
  · next index hindex =>
      rw [(List.findIdx?_eq_some_iff_findIdx_eq.mp hindex).2]
      rfl
  · next hnone =>
      have hle := h.position_le
      rw [List.findIdx?_eq_none_iff_findIdx_eq.mp hnone, List.length_drop, h.source_eq]
      exact (Nat.add_sub_cancel' hle).symm

theorem restOfLine_eq (h : scanner.StandsIn source) :
    scanner.restOfLine = scanner.cursor.restOfLine := by
  rw [restOfLine, h.lineEnd_eq, text_eq, Cursor.lineEnd]
  have hcount : scanner.cursor.offset + scanner.cursor.restOfLine.length - scanner.position =
      scanner.cursor.restOfLine.length := Nat.add_sub_cancel_left _ _
  rw [hcount]
  exact take_length_takeWhile _ _

theorem cursor_toLineEnd (h : scanner.StandsIn source) :
    scanner.toLineEnd.cursor = scanner.cursor.toLineEnd := by
  have hrest : scanner.source.drop scanner.cursor.lineEnd =
      scanner.cursor.rest.dropWhile (· ≠ '\n') := by
    rw [Cursor.lineEnd, ← drop_length_takeWhile, ← Cursor.restOfLine]
    exact List.drop_drop.symm
  simp only [Scanner.toLineEnd, cursor, h.lineEnd_eq, Cursor.toLineEnd] at hrest ⊢
  rw [hrest]

theorem of_cursor (hin : scanner.cursor.IsIn source) (hsource : scanner.source = source)
    (hlookahead : scanner.lookahead = source[scanner.position]?) : scanner.StandsIn source :=
  ⟨hsource, hin.standsIn.offset_le, hlookahead, hin.standsIn.line_eq⟩

theorem toLineEnd (h : scanner.StandsIn source) : scanner.toLineEnd.StandsIn source := by
  refine of_cursor ?_ h.source_eq ?_
  · rw [h.cursor_toLineEnd]
    exact h.isIn.reaches (Cursor.reaches_toLineEnd _)
  · rw [Scanner.toLineEnd, h.source_eq]

theorem scanner_cursor (h : scanner.StandsIn source) : scanner.cursor.scanner source = scanner := by
  rw [Cursor.scanner, h.lookahead_cursor, ← h.source_eq]
  rfl

end StandsIn

end Scanner

theorem Cursor.IsIn.cursor_scanner {cursor : Cursor} {source : List Char} (h : cursor.IsIn source) :
    (cursor.scanner source).cursor = cursor := by
  rw [Scanner.cursor, scanner, ← h.rest_eq]

theorem Cursor.IsIn.standsIn_scanner {cursor : Cursor} {source : List Char}
    (h : cursor.IsIn source) : (cursor.scanner source).StandsIn source :=
  .of_cursor (by rwa [h.cursor_scanner]) rfl h.standsIn.lookahead_eq

end IRLexer
