import IRLexer.Proofs.Layout
import IRLexer.Proofs.Locality
import IRLexer.Proofs.Tiling
import IRLexer.Proofs.Translation

/-!
# Sources put together

A line feed keeps two sources apart: the scan of the whole is the scan of the first, and behind it
that of the second at its place, so that a source is scanned line by line.  Text that is appended
without a line feed changes at most the last lexeme, and that one only where it reaches the end and
could have gone on.
-/

namespace IRLexer

namespace Cursor

def behindRest (cursor : Cursor) (later : List Char) : Cursor where
  offset := cursor.offset + cursor.rest.length
  line := cursor.line + cursor.rest.count '\n'
  rest := later

theorem Reaches.behindRest_eq {cursor after : Cursor} (h : cursor.Reaches after)
    (later : List Char) : after.behindRest later = cursor.behindRest later := by
  obtain ⟨count, rfl⟩ := h
  have hlength : cursor.rest.length =
      (cursor.rest.take count).length + (cursor.rest.drop count).length := by
    rw [← List.length_append, List.take_append_drop]
  have hlines : cursor.rest.count '\n' =
      (cursor.rest.take count).count '\n' + (cursor.rest.drop count).count '\n' := by
    rw [← List.count_append, List.take_append_drop]
  simp only [behindRest, skip, Cursor.mk.injEq, and_true]
  omega

theorem skip_length_withRest (cursor : Cursor) (later : List Char) :
    (cursor.withRest (cursor.rest ++ later)).skip cursor.rest.length = cursor.behindRest later :=
  cursor.skip_withRest_append cursor.rest later

theorem lexemes_of_rest_eq_nil {cursor : Cursor} (h : cursor.rest = []) : cursor.lexemes = [] := by
  apply lexemes_of_lexeme?_eq_none
  simp [lexeme?, skipBlanks, skipWhile, skip, h]

theorem lexemes_skip_of_isBlank {cursor : Cursor} {count : Nat}
    (hcount : count ≤ cursor.rest.length)
    (hblank : ∀ c ∈ cursor.rest.take count, isBlank c = true) :
    (cursor.skip count).lexemes = cursor.lexemes := by
  have hblanks : count + (cursor.skip count).blanks.length = cursor.blanks.length := by
    have hwhole : cursor.blanks = cursor.rest.take count ++ (cursor.skip count).blanks := by
      rw [blanks, blanks, rest_skip, ← List.takeWhile_append_of_pos hblank, List.take_append_drop]
    simp [hwhole, hcount]
  have hskip : (cursor.skip count).skipBlanks = cursor.skipBlanks := by
    rw [← skip_blanks, skip_skip, hblanks, skip_blanks]
  have hlexeme : (cursor.skip count).lexeme? = cursor.lexeme? := by
    simp only [lexeme?, hskip]
  cases h : cursor.lexeme? with
  | none => rw [lexemes_of_lexeme?_eq_none h, lexemes_of_lexeme?_eq_none (hlexeme.trans h)]
  | some found => rw [lexemes_of_lexeme? h, lexemes_of_lexeme? (hlexeme.trans h)]

theorem isBlank_of_lexeme?_eq_none {cursor : Cursor} (h : cursor.lexeme? = none) {c : Char}
    (hc : c ∈ cursor.rest) : isBlank c = true := by
  have hrest := cursor.blanks_append_rest_skipBlanks
  rw [rest_skipBlanks_eq_nil h, List.append_nil] at hrest
  rw [← hrest] at hc
  exact isBlank_of_mem_blanks hc

theorem lexeme?_append {cursor after : Cursor} {lexeme : Lexeme} {more : List Char}
    (h : cursor.lexeme? = some (lexeme, after))
    (hlexeme : lexeme.form.IsLexemeBefore lexeme.text (after.rest ++ more)) :
    (cursor.withRest (cursor.rest ++ more)).lexeme? =
      some (lexeme, after.withRest (after.rest ++ more)) := by
  have hrest : cursor.rest ++ more = cursor.blanks ++ (lexeme.text ++ (after.rest ++ more)) := by
    rw [rest_eq_of_lexeme? h]
    simp only [List.append_assoc]
  rw [hrest]
  exact lexeme?_withRest h hlexeme rfl

theorem lexemes_append_newline (cursor : Cursor) (later : List Char) :
    (cursor.withRest (cursor.rest ++ '\n' :: later)).lexemes =
      cursor.lexemes ++ (cursor.behindRest ('\n' :: later)).lexemes := by
  fun_induction lexemes cursor with
  | case1 cursor hlexeme =>
      rw [List.nil_append, ← skip_length_withRest]
      refine (lexemes_skip_of_isBlank (by simp [withRest]) ?_).symm
      intro c hc
      rw [withRest, List.take_left] at hc
      exact isBlank_of_lexeme?_eq_none hlexeme hc
  | case2 cursor lexeme after hlexeme ih =>
      have hbefore : lexeme.form.IsLexemeBefore lexeme.text (after.rest ++ '\n' :: later) := by
        cases hrest : after.rest with
        | nil =>
            -- The lexeme touched the end of the first source; a line feed ends every form.
            apply (isLexeme_of_lexeme? hlexeme).before
            intro c hc
            obtain rfl : '\n' = c := by simpa using hc
            exact ⟨by decide, fun _ => rfl⟩
        | cons c rest =>
            apply (isLexemeBefore_of_lexeme? hlexeme).of_head?_eq
            simp [hrest]
      rw [lexemes_of_lexeme? (lexeme?_append hlexeme hbefore), ih,
        (reaches_of_lexeme? hlexeme).behindRest_eq, List.cons_append]

theorem lexemes_behindRest_newline (cursor : Cursor) (later : List Char) :
    (cursor.behindRest ('\n' :: later)).lexemes =
      ((cursor.behindRest ('\n' :: later)).skip 1).lexemes := by
  have hnewline : isBlank '\n' = true := by decide
  refine (lexemes_skip_of_isBlank ?_ ?_).symm
  · simp [behindRest]
  · simpa [behindRest] using hnewline

theorem lexemes_toLineEnd_suffix (cursor : Cursor) :
    cursor.toLineEnd.lexemes <:+ cursor.lexemes := by
  rcases cursor.lookahead_toLineEnd with hnewline | hend
  · have hrest := rest_of_lookahead hnewline
    have hlines : cursor.restOfLine.count '\n' = 0 :=
      List.count_eq_zero.mpr cursor.newline_not_mem_restOfLine
    have hjump : (cursor.withRest cursor.restOfLine).behindRest cursor.toLineEnd.rest =
        cursor.toLineEnd := by
      simp [behindRest, withRest, hlines, toLineEnd, lineEnd]
    have hsplit := (cursor.withRest cursor.restOfLine).lexemes_append_newline
      (cursor.toLineEnd.skip 1).rest
    rw [← hrest, hjump] at hsplit
    refine ⟨_, hsplit.symm.trans ?_⟩
    exact congrArg lexemes (congrArg cursor.withRest cursor.restOfLine_append_rest_toLineEnd)
  · rw [lexemes_of_rest_eq_nil (List.head?_eq_none_iff.mp hend)]
    exact List.nil_suffix

end Cursor

section Shift

variable (offset line : Nat)

def ScanOutcome.shift : ScanOutcome → ScanOutcome
  | .item found => .item (found.shift offset line)
  | .fault cause start stop => .fault cause (start + offset) (stop + offset)

theorem Lexeme.outcome_shift (lexeme : Lexeme) :
    (lexeme.shift offset line).outcome = lexeme.outcome.shift offset line := by
  unfold Lexeme.outcome
  rw [Lexeme.read_shift]
  cases lexeme.read with
  | error fault => simp [Except.map, ScanOutcome.shift, Lexeme.shift, Nat.add_right_comm]
  | ok item => rfl

theorem Cursor.lexemes_shift (cursor : Cursor) :
    (cursor.shift offset line).lexemes = cursor.lexemes.map (Lexeme.shift offset line) := by
  fun_induction lexemes cursor with
  | case1 cursor hlexeme =>
      apply lexemes_of_lexeme?_eq_none
      rw [lexeme?_shift, hlexeme, Option.map_none]
  | case2 cursor lexeme after hlexeme ih =>
      rw [List.map_cons, ← ih]
      apply lexemes_of_lexeme?
      rw [lexeme?_shift, hlexeme, Option.map_some, Prod.map_apply]

theorem Cursor.outcomes_shift (cursor : Cursor) :
    (cursor.shift offset line).outcomes = cursor.outcomes.map (ScanOutcome.shift offset line) := by
  simp only [outcomes_eq_map_lexemes, lexemes_shift, List.map_map]
  apply List.map_congr_left
  intro lexeme _
  exact lexeme.outcome_shift offset line

end Shift

/-! ## Line by line -/

theorem outcomes_append_newline (before later : List Char) :
    (Cursor.start (before ++ '\n' :: later)).outcomes =
      (Cursor.start before).outcomes ++ (Cursor.start later).outcomes.map
        (ScanOutcome.shift (before.length + 1) (1 + before.count '\n')) := by
  have hlater : ((Cursor.start before).behindRest ('\n' :: later)).skip 1 =
      (Cursor.start later).shift (before.length + 1) (1 + before.count '\n') := by
    simp [Cursor.behindRest, Cursor.skip, Cursor.start, Cursor.shift]
    omega
  have hwhole := (Cursor.start before).lexemes_append_newline later
  rw [Cursor.lexemes_behindRest_newline, hlater] at hwhole
  rw [← Cursor.outcomes_shift]
  simp only [Cursor.outcomes_eq_map_lexemes, ← List.map_append]
  exact congrArg (List.map Lexeme.outcome) hwhole

def lineOutcomes (offset line : Nat) : List (List Char) → List ScanOutcome
  | [] => []
  | text :: later =>
      (Cursor.start text).outcomes.map (ScanOutcome.shift offset line) ++
        lineOutcomes (offset + text.length + 1) (line + 1) later

theorem ScanOutcome.shift_shift (offset line further more : Nat) (outcome : ScanOutcome) :
    (outcome.shift offset line).shift further more =
      outcome.shift (further + offset) (more + line) := by
  rcases outcome with (token | error) | ⟨cause, start, stop⟩ <;>
    simp [shift, Item.shift, Token.shift, CharError.shift, Nat.add_comm, Nat.add_left_comm]

theorem ScanOutcome.shift_zero (outcome : ScanOutcome) : outcome.shift 0 0 = outcome := by
  rcases outcome with (token | error) | ⟨cause, start, stop⟩ <;> rfl

theorem map_shift_outcomes_eq_lineOutcomes (source : List Char) (offset line : Nat) :
    (Cursor.start source).outcomes.map (ScanOutcome.shift offset line) =
      lineOutcomes offset line (source.splitOn '\n') := by
  induction hlength : source.length using Nat.strongRecOn generalizing source offset line with
  | ind length ih =>
      by_cases hnewline : '\n' ∈ source
      · obtain ⟨before, later, rfl, hbefore⟩ := List.eq_append_cons_of_mem hnewline
        have hlines : before.count '\n' = 0 := List.count_eq_zero.mpr hbefore
        have hlater := ih later.length (by simp at hlength; omega) later
          (offset + before.length + 1) (line + 1) rfl
        rw [List.splitOn_append_cons_self_of_not_mem hbefore, lineOutcomes, ← hlater,
          outcomes_append_newline, hlines, List.map_append, List.map_map]
        congr 2
        funext outcome
        exact outcome.shift_shift _ _ _ _
      · rw [List.splitOn_eq_singleton hnewline]
        simp [lineOutcomes]

/--
Two sources that are joined by a line feed are scanned as each by itself, the second at its place
behind the line feed; and so every source is scanned as its lines, each at its own place.
-/
theorem outcomes_join_lines :
    (∀ before later : List Char,
      (Cursor.start (before ++ '\n' :: later)).outcomes =
        (Cursor.start before).outcomes ++ (Cursor.start later).outcomes.map
          (ScanOutcome.shift (before.length + 1) (1 + before.count '\n'))) ∧
    ∀ source : List Char,
      (Cursor.start source).outcomes = lineOutcomes 0 0 (source.splitOn '\n') := by
  refine ⟨outcomes_append_newline, ?_⟩
  intro source
  have hzero : ScanOutcome.shift 0 0 = id := funext ScanOutcome.shift_zero
  rw [← map_shift_outcomes_eq_lineOutcomes, hzero, List.map_id]

/-! ## Appended text -/

/-- A lexeme that reaches the end of what is left and could go on. -/
def Lexeme.IsOpenAt (lexeme : Lexeme) (stop : Nat) : Prop :=
  lexeme.start + lexeme.text.length = stop ∧ lexeme.form.isFixed = false

theorem Cursor.exists_lexemes_append (cursor : Cursor) (more : List Char) :
    ∃ settled touching, cursor.lexemes = settled ++ touching ∧
      settled <+: (cursor.withRest (cursor.rest ++ more)).lexemes ∧ touching.length ≤ 1 ∧
      ∀ lexeme ∈ touching, lexeme.IsOpenAt (cursor.offset + cursor.rest.length) := by
  fun_induction lexemes cursor with
  | case1 cursor hlexeme => exact ⟨[], [], rfl, List.nil_prefix, by simp, by simp⟩
  | case2 cursor lexeme after hlexeme ih =>
      have hreach := (reaches_of_lexeme? hlexeme).behindRest_eq []
      have hend : after.offset + after.rest.length = cursor.offset + cursor.rest.length :=
        congrArg Cursor.offset hreach
      by_cases hopen : after.rest = [] ∧ lexeme.form.isFixed = false
      · obtain ⟨hrest, hform⟩ := hopen
        have hnone := lexemes_of_rest_eq_nil hrest
        refine ⟨[], [lexeme], by simp [hnone], List.nil_prefix, by simp, ?_⟩
        intro other hother
        rw [List.mem_singleton.mp hother]
        refine ⟨?_, hform⟩
        rw [← (place_of_lexeme? hlexeme).2, ← hend, hrest, List.length_nil, Nat.add_zero]
      · have hbefore : lexeme.form.IsLexemeBefore lexeme.text (after.rest ++ more) := by
          have hcut := isLexemeBefore_of_lexeme? hlexeme
          cases hrest : after.rest with
          | nil =>
              apply hcut.of_isFixed
              simpa [hrest] using hopen
          | cons c rest =>
              apply hcut.of_head?_eq
              simp [hrest]
        obtain ⟨settled, touching, hsplit, hsettled, hone, hopenAt⟩ := ih
        refine ⟨lexeme :: settled, touching, by simp [hsplit], ?_, hone, ?_⟩
        · rw [lexemes_of_lexeme? (lexeme?_append hlexeme hbefore)]
          exact List.cons_prefix_cons.mpr ⟨rfl, hsettled⟩
        · rwa [hend] at hopenAt

theorem Cursor.span_outcome_of_mem_lexemes {cursor : Cursor} {source : List Char}
    (hin : cursor.IsIn source) {lexeme : Lexeme} (h : lexeme ∈ cursor.lexemes) :
    lexeme.outcome.span = lexeme.span := by
  have hspans := map_span_outcomes hin
  rw [outcomes_eq_map_lexemes, List.map_map] at hspans
  exact List.map_inj_left.mp hspans lexeme h

/--
Appending text leaves every outcome as it is that ends before the end of the source, or that is of
a fixed length.  What it can change is one last comment, number or word that reaches the end.
-/
theorem outcomes_append_keeps (source more : List Char) :
    (∀ (index : Nat) (outcome : ScanOutcome),
      (Cursor.start source).outcomes[index]? = some outcome →
      outcome.span.stop < source.length ∨ outcome.span.form.isFixed = true →
        (Cursor.start (source ++ more)).outcomes[index]? = some outcome) ∧
    ∃ settled touching, (Cursor.start source).outcomes = settled ++ touching ∧
      settled <+: (Cursor.start (source ++ more)).outcomes ∧ touching.length ≤ 1 ∧
      ∀ outcome ∈ touching,
        outcome.span.stop = source.length ∧ outcome.span.form.isFixed = false := by
  obtain ⟨settled, touching, hsplit, hsettled, hone, hopen⟩ :=
    (Cursor.start source).exists_lexemes_append more
  have hbefore : (Cursor.start source).outcomes =
      settled.map Lexeme.outcome ++ touching.map Lexeme.outcome := by
    rw [Cursor.outcomes_eq_map_lexemes, hsplit, List.map_append]
  have hafter : settled.map Lexeme.outcome <+: (Cursor.start (source ++ more)).outcomes := by
    rw [Cursor.outcomes_eq_map_lexemes]
    exact hsettled.map Lexeme.outcome
  have htouching : ∀ outcome ∈ touching.map Lexeme.outcome,
      outcome.span.stop = source.length ∧ outcome.span.form.isFixed = false := by
    intro outcome houtcome
    obtain ⟨lexeme, hlexeme, rfl⟩ := List.mem_map.mp houtcome
    have hmem : lexeme ∈ (Cursor.start source).lexemes := by
      rw [hsplit]
      exact List.mem_append_right settled hlexeme
    rw [Cursor.span_outcome_of_mem_lexemes (Cursor.start_isIn source) hmem]
    obtain ⟨hstop, hform⟩ := hopen lexeme hlexeme
    refine ⟨?_, hform⟩
    simpa [Cursor.start, Lexeme.span] using hstop
  refine ⟨?_, _, _, hbefore, hafter, by simpa using hone, htouching⟩
  intro index outcome houtcome hkept
  rw [hbefore] at houtcome
  by_cases hindex : index < (settled.map Lexeme.outcome).length
  · rw [List.getElem?_append_left hindex] at houtcome
    obtain ⟨later, hlater⟩ := hafter
    rw [← hlater, List.getElem?_append_left hindex]
    exact houtcome
  · rw [List.getElem?_append_right (Nat.le_of_not_lt hindex)] at houtcome
    obtain ⟨hstop, hform⟩ := htouching outcome (List.mem_of_getElem? houtcome)
    rcases hkept with hlt | hfixed
    · omega
    · rw [hform] at hfixed
      contradiction

theorem outcomes_append_keeps_arrow :
    (Cursor.start ['-', '>', '>']).outcomes[0]? =
      some (.item (.token ⟨.arrow, none, ['-', '>'], 0, 1⟩)) := by
  have hlexeme : (Cursor.start ['-', '>']).lexeme? =
      some (⟨.arrow, ['-', '>'], 0, 1⟩, ⟨2, 1, []⟩) := rfl
  have hbefore : (Cursor.start ['-', '>']).outcomes[0]? =
      some (.item (.token ⟨.arrow, none, ['-', '>'], 0, 1⟩)) := by
    rw [Cursor.outcomes_of_lexeme? hlexeme]
    rfl
  exact (outcomes_append_keeps ['-', '>'] ['>']).1 0 _ hbefore (.inr rfl)

end IRLexer
