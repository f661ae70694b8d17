import IRLexer.Proofs.Locality
import IRLexer.Proofs.Tiling
import Mathlib.Data.List.Basic

/-!
# Overwritten sources

The characters of some outcomes of a scan are overwritten by a mark, and every other character of
the source stays.  The places are those of the scan of the old source, so the new source is put
together lexeme by lexeme, in step with that scan.
-/

namespace IRLexer

def ScanOutcome.covers (outcome : ScanOutcome) (place : Nat) : Bool :=
  outcome.span.start ≤ place && place < outcome.span.stop

theorem ScanOutcome.covers_eq_false_of_lt {outcome : ScanOutcome} {place : Nat}
    (h : place < outcome.span.start) : outcome.covers place = false := by
  simp [covers, Nat.not_le.mpr h]

/-- What is left, with the mark in place of every character of the picked outcomes. -/
def Cursor.overwritten (cursor : Cursor) (picked : ScanOutcome → Bool) (mark : Char) :
    List Char :=
  cursor.rest.mapIdx fun index c =>
    if cursor.outcomes.any fun outcome =>
        picked outcome && outcome.covers (cursor.offset + index) then mark
    else c

def overwrite (picked : ScanOutcome → Bool) (mark : Char) (source : List Char) : List Char :=
  (Cursor.start source).overwritten picked mark

theorem mapIdx_eq_self {text : List Char} {change : Nat → Char → Char}
    (h : ∀ index, index < text.length → ∀ c, change index c = c) : text.mapIdx change = text := by
  rw [List.mapIdx_eq_iff]
  intro index
  cases hchar : text[index]? with
  | none => rfl
  | some c => rw [Option.map_some, h index (List.getElem?_eq_some_iff.mp hchar).1]

namespace Cursor

variable {cursor after : Cursor} {lexeme : Lexeme} {source : List Char}
  {picked : ScanOutcome → Bool} {mark : Char}

theorem offset_le_of_mem_outcomes (hin : cursor.IsIn source) {outcome : ScanOutcome}
    (h : outcome ∈ cursor.outcomes) : cursor.offset ≤ outcome.span.start := by
  have htiles := (tiles_iff_eq_lexemes hin _).mpr (map_span_outcomes hin)
  exact (htiles.inside _ (List.mem_map_of_mem h)).1

theorem overwritten_of_lexeme?_eq_none (h : cursor.lexeme? = none) :
    cursor.overwritten picked mark = cursor.rest := by
  apply mapIdx_eq_self
  simp [outcomes_of_lexeme?_eq_none h]

theorem any_covers_of_lt (hin : cursor.IsIn source) (h : cursor.lexeme? = some (lexeme, after))
    {place : Nat} (hplace : place < lexeme.start) :
    (cursor.outcomes.any fun outcome => picked outcome && outcome.covers place) = false := by
  have hafter := hin.reaches (reaches_of_lexeme? h)
  have hstop := (place_of_lexeme? h).2
  rw [List.any_eq_false]
  intro outcome houtcome
  have hstart : place < outcome.span.start := by
    rw [outcomes_of_lexeme? h] at houtcome
    rcases List.mem_cons.mp houtcome with rfl | hlater
    · rw [span_outcome hin h]
      exact hplace
    · have hle := offset_le_of_mem_outcomes hafter hlater
      omega
  simp [ScanOutcome.covers_eq_false_of_lt hstart]

theorem any_covers_of_inside (hin : cursor.IsIn source)
    (h : cursor.lexeme? = some (lexeme, after)) {place : Nat} (hstart : lexeme.start ≤ place)
    (hstop : place < after.offset) :
    (cursor.outcomes.any fun outcome => picked outcome && outcome.covers place) =
      picked lexeme.outcome := by
  have hafter := hin.reaches (reaches_of_lexeme? h)
  have hlater : (after.outcomes.any fun outcome =>
      picked outcome && outcome.covers place) = false := by
    rw [List.any_eq_false]
    intro outcome houtcome
    have hle := offset_le_of_mem_outcomes hafter houtcome
    simp [ScanOutcome.covers_eq_false_of_lt (Nat.lt_of_lt_of_le hstop hle)]
  have hcovers : lexeme.outcome.covers place = true := by
    rw [(place_of_lexeme? h).2] at hstop
    simp [ScanOutcome.covers, span_outcome hin h, Lexeme.span, hstart, hstop]
  rw [outcomes_of_lexeme? h, List.any_cons, hlater, hcovers, Bool.and_true, Bool.or_false]

theorem any_covers_of_le (hin : cursor.IsIn source) (h : cursor.lexeme? = some (lexeme, after))
    {place : Nat} (hplace : after.offset ≤ place) :
    (cursor.outcomes.any fun outcome => picked outcome && outcome.covers place) =
      after.outcomes.any fun outcome => picked outcome && outcome.covers place := by
  have hcovers : lexeme.outcome.covers place = false := by
    rw [(place_of_lexeme? h).2] at hplace
    simp [ScanOutcome.covers, span_outcome hin h, Lexeme.span, hplace]
  rw [outcomes_of_lexeme? h, List.any_cons, hcovers, Bool.and_false, Bool.false_or]

theorem overwritten_of_lexeme? (hin : cursor.IsIn source)
    (h : cursor.lexeme? = some (lexeme, after)) :
    cursor.overwritten picked mark =
      cursor.blanks ++ ((if picked lexeme.outcome then List.replicate lexeme.text.length mark
        else lexeme.text) ++ after.overwritten picked mark) := by
  obtain ⟨hstart, hstop⟩ := place_of_lexeme? h
  have hblanks : lexeme.start = cursor.offset + cursor.blanks.length := by
    rw [hstart, offset_skipBlanks]
  rw [overwritten, rest_eq_of_lexeme? h, List.mapIdx_append, List.mapIdx_append]
  congr 2
  · apply mapIdx_eq_self
    intro index hindex c
    rw [any_covers_of_lt hin h (by omega), if_neg Bool.false_ne_true]
  · have hpicked : ∀ index, index < lexeme.text.length →
        (cursor.outcomes.any fun outcome => picked outcome &&
          outcome.covers (cursor.offset + (index + cursor.blanks.length))) =
            picked lexeme.outcome := by
      intro index hindex
      exact any_covers_of_inside hin h (by omega) (by omega)
    cases hmark : picked lexeme.outcome with
    | true =>
        rw [if_pos rfl, List.mapIdx_eq_replicate_iff]
        intro index hindex
        rw [hpicked index hindex, hmark, if_pos rfl]
    | false =>
        rw [if_neg Bool.false_ne_true]
        apply mapIdx_eq_self
        intro index hindex c
        rw [hpicked index hindex, hmark, if_neg Bool.false_ne_true]
  · unfold overwritten
    congr 1
    funext index c
    have hplace : cursor.offset + (index + lexeme.text.length + cursor.blanks.length) =
        after.offset + index := by omega
    rw [hplace, any_covers_of_le hin h (Nat.le_add_right _ _)]

theorem head?_overwritten (hin : cursor.IsIn source) :
    (cursor.overwritten picked mark).head? = cursor.rest.head? ∨
      ∃ lexeme after, cursor.lexeme? = some (lexeme, after) ∧ picked lexeme.outcome = true ∧
        cursor.rest.head? = lexeme.text.head? := by
  cases h : cursor.lexeme? with
  | none =>
      left
      rw [overwritten_of_lexeme?_eq_none h]
  | some found =>
      obtain ⟨lexeme, after⟩ := found
      have hne : lexeme.text ≠ [] :=
        List.ne_nil_of_length_pos (isLexemeBefore_of_lexeme? h).length_pos
      rw [overwritten_of_lexeme? hin h, rest_eq_of_lexeme? h]
      cases hblanks : cursor.blanks with
      | cons c blanks =>
          left
          rfl
      | nil =>
          simp only [List.nil_append]
          cases hpicked : picked lexeme.outcome with
          | true =>
              exact .inr ⟨lexeme, after, rfl, hpicked, List.head?_append_of_ne_nil _ hne⟩
          | false =>
              left
              rw [if_neg Bool.false_ne_true, List.head?_append_of_ne_nil _ hne,
                List.head?_append_of_ne_nil _ hne]

end Cursor

end IRLexer
