import IRLexer.Proofs.Separation
import IRLexer.Proofs.Tiling

/-!
# The kind of a number

A number is a float when a word for a not-a-number or an infinity follows its sign or a radix point
stands in its run.  These are looked for in the source, where they might reach past the number that
is cut there.  None of them does, because they are made of number characters up to a closing colon.
The text of a number alone therefore tells its kind.
-/

namespace IRLexer

namespace NumberLiteral

theorem kind_eq_float_iff {literal : List Char} :
    kind literal = .float ↔ '.' ∈ literal ∨ quietName <+: unsigned literal ∨
      infinityName <+: unsigned literal ∨ signalingPayload <+: unsigned literal := by
  have hfloat : kind literal = .float ↔ isFloat literal = true := by
    unfold kind
    split <;> simp_all
  simp only [hfloat, isFloat, quietName, infinityName, Bool.or_eq_true, List.contains_iff_mem,
    List.isPrefixOf_iff_prefix, or_assoc]

theorem kind_eq_float_or_integer (literal : List Char) :
    kind literal = .float ∨ kind literal = .integer := by
  unfold kind
  split
  · exact .inl rfl
  · exact .inr rfl

def run (text : List Char) : List Char :=
  (text.drop (headLength text)).takeWhile isNumberChar

theorem run_eq (text : List Char) :
    run text = ((unsigned text).drop (introLength (unsigned text))).takeWhile isNumberChar := by
  rw [run, headLength, unsigned, List.drop_drop]

theorem isNumberChar_of_mem_run {text : List Char} {c : Char} (h : c ∈ run text) :
    isNumberChar c = true :=
  List.mem_takeWhile_imp h

theorem eq_sign_of_mem_take_signLength {text : List Char} {c : Char}
    (h : c ∈ text.take (signLength text)) : c = '-' := by
  unfold signLength at h
  split at h
  · simpa using h
  · simp at h

theorem unsigned_take_extent (text : List Char) :
    unsigned (text.take (extent text)) =
      (unsigned text).take (introLength (unsigned text)) ++ run text := by
  have hsign : signLength (text.take (extent text)) = signLength text := by
    rw [signLength_eq, signLength_eq, List.head?_take]
    split
    · next hzero =>
        have hnone : signLength text = 0 := by
          simp only [extent, headLength] at hzero
          omega
        rw [← signLength_eq, hnone]
        rfl
    · rfl
  have hlength : (text.take (signLength text)).length = signLength text := by
    rw [List.length_take, Nat.min_eq_left (signLength_le text)]
  rw [unsigned, hsign, take_extent, List.drop_left' hlength, run_eq]

theorem prefix_takeWhile_iff {name text : List Char} (hname : name.all isNumberChar = true) :
    name <+: text.takeWhile isNumberChar ↔ name <+: text := by
  rw [List.all_eq_true] at hname
  constructor
  · intro hbegin
    exact hbegin.trans (List.takeWhile_prefix _)
  · rintro ⟨later, rfl⟩
    rw [List.takeWhile_append_of_pos hname]
    exact List.prefix_append _ _

theorem kind_take_extent_of_payload {text : List Char} (h : introLength (unsigned text) ≠ 0) :
    kind (text.take (extent text)) = .float := by
  rw [kind_eq_float_iff, unsigned_take_extent]
  rcases payload_of_introLength h with ⟨hquiet, hlength⟩ | ⟨hsignaling, hlength⟩
  · rw [hlength, ← List.prefix_iff_eq_take.mp hquiet]
    exact .inr (.inl ⟨':' :: run text, rfl⟩)
  · rw [hlength, ← List.prefix_iff_eq_take.mp hsignaling]
    exact .inr (.inr (.inr (List.prefix_append _ _)))

theorem kind_take_extent_of_no_payload {text : List Char} (h : introLength (unsigned text) = 0) :
    kind (text.take (extent text)) = .float ↔ quietName <+: unsigned text ∨
      infinityName <+: unsigned text ∨ '.' ∈ run text := by
  have hrun : run text = (unsigned text).takeWhile isNumberChar := by
    rw [run_eq, h, List.drop_zero]
  have hpoint : '.' ∈ text.take (extent text) ↔ '.' ∈ run text := by
    rw [take_extent, ← run_eq, h, List.take_zero, List.nil_append, List.mem_append,
      or_iff_right]
    intro hmem
    exact absurd (eq_sign_of_mem_take_signLength hmem) (by decide)
  have hcolon : ¬ signalingPayload <+: run text := by
    intro hbegin
    exact absurd (isNumberChar_of_mem_run (hbegin.subset (by decide : ':' ∈ _))) (by decide)
  rw [kind_eq_float_iff, hpoint, unsigned_take_extent, h, List.take_zero, List.nil_append,
    or_iff_left hcolon, hrun, prefix_takeWhile_iff (by decide), prefix_takeWhile_iff (by decide),
    or_comm, or_assoc]

theorem kind_take_extent_eq_float_iff {text : List Char} :
    kind (text.take (extent text)) = .float ↔ 0 < introLength (unsigned text) ∨
      quietName <+: unsigned text ∨ infinityName <+: unsigned text ∨ '.' ∈ run text := by
  by_cases h : introLength (unsigned text) = 0
  · simp only [kind_take_extent_of_no_payload h, h, Nat.lt_irrefl, false_or]
  · simp only [kind_take_extent_of_payload h, Nat.pos_of_ne_zero h, true_or]

end NumberLiteral

/-! ## Numbers by offsets -/

/-- The number that the source has at a place, whatever character stands there. -/
structure NumberAt (source : List Char) (start stop : Nat) (kind : Kind) : Prop where
  isRun : IsRun isNumberChar source (numberRunStart source start) stop
  kind_eq : kind = .float ∨ kind = .integer
  float_iff : kind = .float ↔ unsignedStart source start < numberRunStart source start ∨
    NumberLiteral.quietName <+: source.drop (unsignedStart source start) ∨
    NumberLiteral.infinityName <+: source.drop (unsignedStart source start) ∨
    '.' ∈ slice source (numberRunStart source start) stop

theorem drop_unsignedStart (source : List Char) (start : Nat) :
    source.drop (unsignedStart source start) = NumberLiteral.unsigned (source.drop start) := by
  rw [unsignedStart_eq, ← List.drop_drop]
  rfl

theorem unsignedStart_lt_numberRunStart_iff {source : List Char} {start : Nat} :
    unsignedStart source start < numberRunStart source start ↔
      0 < NumberLiteral.introLength (NumberLiteral.unsigned (source.drop start)) := by
  rw [unsignedStart_eq, numberRunStart_eq, NumberLiteral.headLength]
  omega

theorem slice_numberRunStart (source : List Char) (start : Nat) :
    slice source (numberRunStart source start)
        (start + NumberLiteral.extent (source.drop start) : Nat) =
      NumberLiteral.run (source.drop start) := by
  rw [slice_natCast, numberRunStart_eq, List.drop_take, NumberLiteral.extent, ← List.drop_drop,
    Nat.add_sub_add_left, Nat.add_sub_cancel_left, take_length_takeWhile, NumberLiteral.run]

theorem numberAt_extent {source : List Char} {start : Nat} (h : start ≤ source.length) :
    NumberAt source start (start + NumberLiteral.extent (source.drop start))
      (NumberLiteral.kind
        ((source.drop start).take (NumberLiteral.extent (source.drop start)))) where
  isRun := (isRun_numberRunStart_iff h).mpr rfl
  kind_eq := NumberLiteral.kind_eq_float_or_integer _
  float_iff := by
    rw [NumberLiteral.kind_take_extent_eq_float_iff, unsignedStart_lt_numberRunStart_iff,
      drop_unsignedStart, slice_numberRunStart]

namespace Cursor

variable {cursor : Cursor} {source : List Char}

theorem exists_numberAt (hin : cursor.IsIn source) :
    ∃ stop kind, NumberAt source cursor.offset stop kind ∧ cursor.number.2.offset = stop ∧
      cursor.number.1 =
        ⟨kind, none, slice source cursor.offset stop, cursor.offset, cursor.line⟩ := by
  have hnumber := numberAt_extent hin.standsIn.offset_le
  have hstop := hnumber.isRun.stop_le
  rw [← hin.rest_eq] at hnumber hstop
  have htext : slice source cursor.offset
      (cursor.offset + NumberLiteral.extent cursor.rest : Nat) =
        cursor.rest.take (NumberLiteral.extent cursor.rest) := by
    rw [slice_natCast, List.drop_take, ← hin.rest_eq, Nat.add_sub_cancel_left]
  refine ⟨_, _, hnumber, ?_, ?_⟩
  · have hwhole := hin.length_eq
    have hlength : NumberLiteral.extent cursor.rest ≤ cursor.rest.length := by
      omega
    simp only [number, cut, skip, List.length_take, Nat.min_eq_left hlength]
  · rw [htext]
    rfl

theorem kind_of_next (hin : cursor.IsIn source) {token : Token}
    (h : cursor.next.1 = .ok (some (.token token))) (hform : token.kind.form = .number) :
    token.kind = NumberLiteral.kind token.text := by
  obtain ⟨lexeme, after, hlexeme, hread⟩ := exists_read_of_next h
  have hspan := span_outcome hin hlexeme
  simp only [Lexeme.outcome, hread] at hspan
  have hnumber : lexeme.form = .number := (congrArg Span.form hspan).symm.trans hform
  simp only [Lexeme.read, hnumber, Except.ok.injEq, Item.token.injEq] at hread
  rw [← hread]
  rfl

end Cursor

/--
At every point of a session a request for a number is answered with the number that the rules find
there, a float exactly for a mark behind its sign or a point in its run.  The kind of a number that
is met as the next item is told by its text alone.
-/
theorem numbers_told_by_text (source : List Char) (requests : List Request) :
    ∀ cursor ∈ sessionCursors (Cursor.start source) requests,
      (∃ stop kind, NumberAt source cursor.offset stop kind ∧ cursor.number.2.offset = stop ∧
        cursor.number.1 =
          ⟨kind, none, slice source cursor.offset stop, cursor.offset, cursor.line⟩) ∧
      ∀ token : Token, cursor.next.1 = .ok (some (.token token)) →
        token.kind = .integer ∨ token.kind = .float →
          (token.kind = .float ↔ '.' ∈ token.text ∨
            ['N', 'a', 'N'] <+: NumberLiteral.unsigned token.text ∨
            ['I', 'n', 'f'] <+: NumberLiteral.unsigned token.text ∨
            ['s', 'N', 'a', 'N', ':'] <+: NumberLiteral.unsigned token.text) := by
  intro cursor hcursor
  have hin := (Cursor.start_isIn source).reaches (reaches_of_mem_sessionCursors hcursor)
  refine ⟨Cursor.exists_numberAt hin, ?_⟩
  intro token hnext hkind
  have hform : token.kind.form = .number := by
    rcases hkind with hkind | hkind <;> rw [hkind] <;> rfl
  have htext := Cursor.kind_of_next hin hnext hform
  rw [htext]
  exact NumberLiteral.kind_eq_float_iff

theorem numbers_told_by_text_secondSign :
    (Cursor.start ['-', '-', 'I', 'n', 'f']).next.1 =
        .ok (some (.token ⟨.integer, none, ['-', '-', 'I', 'n', 'f'], 0, 1⟩)) ∧
      ¬ ['I', 'n', 'f'] <+: NumberLiteral.unsigned ['-', '-', 'I', 'n', 'f'] := by
  have hnext : (Cursor.start ['-', '-', 'I', 'n', 'f']).next.1 =
      .ok (some (.token ⟨.integer, none, ['-', '-', 'I', 'n', 'f'], 0, 1⟩)) := rfl
  refine ⟨hnext, ?_⟩
  intro hname
  have hkind := (numbers_told_by_text ['-', '-', 'I', 'n', 'f'] [] _ List.mem_cons_self).2 _ hnext
    (.inl rfl)
  exact absurd (hkind.mpr (.inr (.inr (.inl hname)))) (by decide)

end IRLexer
