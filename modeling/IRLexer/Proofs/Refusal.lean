import IRLexer.Proofs.Concatenation
import IRLexer.Proofs.Overwriting
import IRLexer.Proofs.WordMeaning

/-!
# Refused words

A word is refused when the numeral at its end has too many digits to be read.  This is the only
fault that asking for the next item can meet.  The word lies behind the cursor by then, and the
scan goes on as if it had been any other word without a meaning.
-/

namespace IRLexer

theorem Meaning.ofWord?_eq_error_iff {word : List Char} {fault : Fault} :
    ofWord? word = .error fault ↔ NumberedName.split? word = .error fault := by
  unfold ofWord?
  cases NumberedName.split? word <;> simp [Except.map]

theorem Meaning.ofWord?_eq_none_of_split? {word : List Char}
    (h : NumberedName.split? word = .ok none) : ofWord? word = .ok none := by
  simp [ofWord?, h, Except.map]

namespace Lexeme

def IsRefused (lexeme : Lexeme) : Prop :=
  lexeme.form = .word ∧ ∃ stem numeral, NumberedName.IsOverlong lexeme.text stem numeral

theorem readWord_eq_error_iff {lexeme : Lexeme} {fault : Fault} :
    lexeme.readWord = .error fault ↔ ∃ stem numeral,
      NumberedName.IsOverlong lexeme.text stem numeral ∧
        fault = .numeralTooLong numeral.length := by
  rw [← NumberedName.split?_eq_error_iff, ← Meaning.ofWord?_eq_error_iff]
  unfold readWord
  cases Meaning.ofWord? lexeme.text <;> simp [Except.map]

theorem read_eq_error_iff {lexeme : Lexeme} {fault : Fault} :
    lexeme.read = .error fault ↔ lexeme.form = .word ∧ ∃ stem numeral,
      NumberedName.IsOverlong lexeme.text stem numeral ∧
        fault = .numeralTooLong numeral.length := by
  rw [← readWord_eq_error_iff]
  cases hform : lexeme.form with
  | word =>
      rw [read_of_word hform]
      cases lexeme.readWord <;> simp [Except.map]
  | comment | punctuation kind | arrow | number | stray char => simp [read, hform]

theorem isRefused_iff {lexeme : Lexeme} :
    lexeme.IsRefused ↔ ∃ fault, lexeme.read = .error fault := by
  constructor
  · rintro ⟨hform, stem, numeral, hlong⟩
    exact ⟨_, read_eq_error_iff.mpr ⟨hform, stem, numeral, hlong, rfl⟩⟩
  · rintro ⟨fault, hread⟩
    obtain ⟨hform, stem, numeral, hlong, -⟩ := read_eq_error_iff.mp hread
    exact ⟨hform, stem, numeral, hlong⟩

theorem read_of_split?_eq_none {lexeme : Lexeme} (hform : lexeme.form = .word)
    (h : NumberedName.split? lexeme.text = .ok none) :
    lexeme.read = .ok (.token (lexeme.token .identifier none)) := by
  simp only [read_of_word hform, readWord, Meaning.ofWord?_eq_none_of_split? h, Except.map]

theorem read_of_maxIndex_lt {lexeme : Lexeme} (hform : lexeme.form = .word) {stem : List Char}
    {number : Nat} (htext : lexeme.text = stem ++ Decimal.natural number)
    (hstem : NumberedName.EndsInNoDigit stem) (hlt : maxIndex < number) :
    lexeme.read =
      if maxNumeralDigits < (Decimal.natural number).length then
        .error (.numeralTooLong (Decimal.natural number).length)
      else .ok (.token (lexeme.token .identifier none)) := by
  have hsplit := NumberedName.split?_natural_of_maxIndex_lt hstem hlt
  rw [← htext] at hsplit
  by_cases hlong : maxNumeralDigits < (Decimal.natural number).length
  · rw [if_pos hlong] at hsplit ⊢
    have hword := Meaning.ofWord?_eq_error_iff.mpr hsplit
    simp only [read_of_word hform, readWord, hword, Except.map]
  · rw [if_neg hlong] at hsplit ⊢
    exact read_of_split?_eq_none hform hsplit

end Lexeme

namespace Span

def lexeme (span : Span) (source : List Char) : Lexeme where
  form := span.form
  text := slice source span.start span.stop
  start := span.start
  line := 1 + (source.take span.start).count '\n'

def behind (span : Span) (source : List Char) : Cursor where
  offset := span.stop
  line := 1 + (source.take span.start).count '\n'
  rest := source.drop span.stop

end Span

namespace Cursor

variable {cursor after : Cursor} {lexeme : Lexeme} {source : List Char}

theorem eq_lexeme_of_lexeme? (hin : cursor.IsIn source)
    (h : cursor.lexeme? = some (lexeme, after)) :
    lexeme = lexeme.span.lexeme source ∧ after = lexeme.span.behind source := by
  have hplace : cursor.skipBlanks.IsIn source := hin.reaches cursor.reaches_skipBlanks
  obtain ⟨hstart, hstop⟩ := place_of_lexeme? h
  obtain ⟨hline, hafterLine⟩ := line_of_lexeme? h
  have hrest := (hin.reaches (reaches_of_lexeme? h)).rest_eq
  have hplaceLine : lexeme.line = 1 + (source.take lexeme.start).count '\n' := by
    rw [hline, hstart, hplace.standsIn.line_eq]
  have htext : lexeme.text =
      slice source lexeme.start (lexeme.start + lexeme.text.length : Nat) := by
    rw [slice_natCast, List.drop_take, hstart, ← hplace.rest_eq, Nat.add_sub_cancel_left,
      rest_skipBlanks_of_lexeme? h, List.take_left]
  obtain ⟨form, text, start, line⟩ := lexeme
  obtain ⟨offset, afterLine, rest⟩ := after
  simp only at hstop hafterLine hrest hplaceLine htext
  simp only [Lexeme.span, Span.lexeme, Span.behind, Lexeme.mk.injEq, Cursor.mk.injEq, true_and]
  refine ⟨⟨htext, hplaceLine⟩, hstop, ?_, ?_⟩
  · rw [hafterLine, hplaceLine]
  · rw [hrest, hstop]

theorem lexeme?_of_localRule (hin : cursor.IsIn source) {span : Span}
    (hgap : IsRun isBlank source cursor.offset span.start) (hrule : LocalRule source span) :
    cursor.lexeme? = some (span.lexeme source, span.behind source) := by
  have hstart : cursor.skipBlanks.offset = span.start := (isRun_skipBlanks hin).stop_eq hgap
  cases h : cursor.lexeme? with
  | none =>
      have hplace : cursor.skipBlanks.IsIn source := hin.reaches cursor.reaches_skipBlanks
      have hnone : cursor.skipBlanks.lookahead = none := by
        rw [lookahead, rest_skipBlanks_eq_nil h, List.head?_nil]
      have hend := hplace.standsIn.lookahead_eq_none_iff.mp hnone
      have hinside := Nat.lt_of_lt_of_le hrule.start_lt_stop hrule.stop_le
      omega
  | some found =>
      obtain ⟨lexeme, after⟩ := found
      have hspan : lexeme.span = span :=
        (rule_of_lexeme? hin h).eq_of_start_eq hrule ((place_of_lexeme? h).1.trans hstart)
      obtain ⟨hlexeme, hafter⟩ := eq_lexeme_of_lexeme? hin h
      rw [← hspan, ← hlexeme, ← hafter]

theorem eq_lexeme_of_mem_lexemes (hin : cursor.IsIn source) (h : lexeme ∈ cursor.lexemes) :
    lexeme = lexeme.span.lexeme source := by
  fun_induction lexemes cursor with
  | case1 cursor hnone => contradiction
  | case2 cursor first after hfirst ih =>
      rcases List.mem_cons.mp h with rfl | hlater
      · exact (eq_lexeme_of_lexeme? hin hfirst).1
      · exact ih (hin.reaches (reaches_of_lexeme? hfirst)) hlater

end Cursor

/-- The first lexeme at or after the offset is a word that ends in a numeral of too many digits. -/
structure RefusedWordAhead (source : List Char) (offset start stop : Nat)
    (stem numeral : List Char) : Prop where
  gap : IsRun isBlank source offset start
  letter : ∃ c, source[start]? = some c ∧ isLetter c = true
  word : IsRun isWordChar source start stop
  overlong : NumberedName.IsOverlong (slice source start stop) stem numeral

namespace Cursor

variable {cursor after : Cursor} {source : List Char} {fault : Fault}

theorem next_eq_error_iff :
    cursor.next = (.error fault, after) ↔
      ∃ lexeme, cursor.lexeme? = some (lexeme, after) ∧ lexeme.read = .error fault := by
  cases h : cursor.lexeme? with
  | none => simp [next_of_lexeme?_eq_none h]
  | some found =>
      obtain ⟨lexeme, behind⟩ := found
      rw [next_of_lexeme? h]
      cases hread : lexeme.read <;> simp [Except.map, hread, and_assoc, and_comm]

theorem next_eq_error_iff_of_isIn (hin : cursor.IsIn source) :
    cursor.next = (.error fault, after) ↔ ∃ start stop stem numeral,
      RefusedWordAhead source cursor.offset start stop stem numeral ∧
        fault = .numeralTooLong numeral.length ∧
        after = ⟨stop, 1 + (source.take start).count '\n', source.drop stop⟩ := by
  rw [next_eq_error_iff]
  constructor
  · rintro ⟨lexeme, h, hread⟩
    obtain ⟨hform, stem, numeral, hlong, rfl⟩ := Lexeme.read_eq_error_iff.mp hread
    obtain ⟨hlexeme, hafter⟩ := eq_lexeme_of_lexeme? hin h
    have hgap := isRun_skipBlanks hin
    rw [← (place_of_lexeme? h).1] at hgap
    have hrule := rule_of_lexeme? hin h
    rw [Lexeme.span, hform] at hrule
    obtain ⟨hletter, hword⟩ := LocalRule.word_iff.mp hrule
    rw [congrArg Lexeme.text hlexeme] at hlong
    exact ⟨_, _, stem, numeral, ⟨hgap, hletter, hword, hlong⟩, rfl, hafter⟩
  · rintro ⟨start, stop, stem, numeral, ⟨hgap, ⟨c, hfirst, hletter⟩, hword, hlong⟩, rfl, rfl⟩
    refine ⟨_, lexeme?_of_localRule hin hgap (.word hfirst hletter hword), ?_⟩
    exact Lexeme.read_eq_error_iff.mpr ⟨rfl, stem, numeral, hlong, rfl⟩

end Cursor

/-! ## The scan with refused words respelled -/

theorem IsWordText.exists_letter {text : List Char} (h : IsWordText text) :
    ∃ first, text.head? = some first ∧ isLetter first = true :=
  (Option.any_eq_true _ _).mp h.1

theorem Form.isLexemeBefore_word_iff {text later : List Char} :
    word.IsLexemeBefore text later ↔
      IsWordText text ∧ ∀ c, later.head? = some c → isWordChar c = false := by
  constructor
  · intro h
    have hpos := h.length_pos
    obtain ⟨⟨first, hfirst, hletter⟩, hrun⟩ := LocalRule.word_iff.mp h
    rw [List.getElem?_append_left hpos, ← List.head?_eq_getElem?] at hfirst
    refine ⟨⟨?_, ?_⟩, ?_⟩
    · rw [hfirst, Option.any_some, hletter]
    · rw [List.all_eq_true]
      intro c hc
      obtain ⟨index, hindex, rfl⟩ := List.getElem_of_mem hc
      apply hrun.inside index _ (Nat.zero_le index) hindex
      rw [List.getElem?_append_left hindex, List.getElem?_eq_getElem hindex]
    · intro c hhead
      apply hrun.boundary
      rw [getElem?_length_append, hhead]
  · rintro ⟨htext, hend⟩
    obtain ⟨first, hfirst, hletter⟩ := htext.exists_letter
    have hinside : ∀ c ∈ text, isWordChar c = true := List.all_eq_true.mp htext.2
    refine LocalRule.word_iff.mpr ⟨⟨first, ?_, hletter⟩, ?_⟩
    · rw [← List.head?_eq_getElem?, List.head?_append, hfirst, Option.some_or]
    · rw [isRun_iff (Nat.zero_le _), List.drop_zero, takeWhile_append_of_head hinside hend,
        Nat.zero_add]

theorem isWordText_replicate {count : Nat} (h : 0 < count) :
    IsWordText (List.replicate count 'q') := by
  have hletter : isLetter 'q' = true := by decide
  constructor
  · rw [List.head?_replicate, if_neg (by omega), Option.any_some, hletter]
  · simp [List.all_replicate, isWordChar_of_isLetter hletter]

theorem NumberedName.endsInNoDigit_replicate (count : Nat) :
    EndsInNoDigit (List.replicate count 'q') := by
  intro c hlast
  rw [List.eq_of_mem_replicate (List.mem_of_getLast? hlast)]
  decide

def ScanOutcome.isFault : ScanOutcome → Bool
  | .item _ => false
  | .fault .. => true

/-- The outcome with an identifier of as many letters `q` in place of a refused word. -/
def ScanOutcome.respelled (source : List Char) : ScanOutcome → ScanOutcome
  | .item found => .item found
  | .fault _ start stop =>
      .item (.token ⟨.identifier, none, List.replicate (stop - start) 'q', start,
        1 + (source.take start).count '\n'⟩)

namespace Lexeme

def respelledText (lexeme : Lexeme) : List Char :=
  if lexeme.outcome.isFault then List.replicate lexeme.text.length 'q' else lexeme.text

def respelled (lexeme : Lexeme) : Lexeme :=
  { lexeme with text := lexeme.respelledText }

theorem isFault_outcome_iff {lexeme : Lexeme} :
    lexeme.outcome.isFault = true ↔ lexeme.IsRefused := by
  rw [isRefused_iff, outcome]
  cases lexeme.read <;> simp [ScanOutcome.isFault]

theorem isLexemeBefore_respelledText {lexeme : Lexeme} {later : List Char}
    (h : lexeme.form.IsLexemeBefore lexeme.text later) :
    lexeme.form.IsLexemeBefore lexeme.respelledText later := by
  have hpos := h.length_pos
  unfold respelledText
  split
  · next hfault =>
      rw [(isFault_outcome_iff.mp hfault).1, Form.isLexemeBefore_word_iff] at h ⊢
      exact ⟨isWordText_replicate hpos, h.2⟩
  · exact h

theorem outcome_respelled {lexeme : Lexeme} {source : List Char}
    (h : lexeme = lexeme.span.lexeme source) :
    lexeme.respelled.outcome = lexeme.outcome.respelled source := by
  cases hread : lexeme.read with
  | ok item =>
      have houtcome : lexeme.outcome = .item item := by
        simp only [outcome, hread]
      have hsame : lexeme.respelled = lexeme := by
        simp [respelled, respelledText, houtcome, ScanOutcome.isFault]
      rw [hsame, houtcome, ScanOutcome.respelled]
  | error cause =>
      have houtcome : lexeme.outcome =
          .fault cause lexeme.start (lexeme.start + lexeme.text.length) := by
        simp only [outcome, hread]
      have htext : lexeme.respelled.text = List.replicate lexeme.text.length 'q' := by
        simp [respelled, respelledText, houtcome, ScanOutcome.isFault]
      have hform : lexeme.respelled.form = .word := (read_eq_error_iff.mp hread).1
      have hsplit : NumberedName.split? lexeme.respelled.text = .ok none := by
        rw [htext]
        exact NumberedName.split?_of_endsInNoDigit (NumberedName.endsInNoDigit_replicate _)
      have hline := congrArg Lexeme.line h
      rw [houtcome, ScanOutcome.respelled, Nat.add_sub_cancel_left, ← htext]
      simp only [outcome, read_of_split?_eq_none hform hsplit, token]
      rw [← show lexeme.line = 1 + (source.take lexeme.start).count '\n' from hline]
      rfl

end Lexeme

namespace Cursor

variable {cursor after : Cursor} {lexeme : Lexeme} {source : List Char}

def respelled (cursor : Cursor) : List Char :=
  cursor.overwritten ScanOutcome.isFault 'q'

theorem lexemes_respelled (hin : cursor.IsIn source) :
    (cursor.withRest cursor.respelled).lexemes = cursor.lexemes.map Lexeme.respelled := by
  fun_induction lexemes cursor with
  | case1 cursor hnone =>
      rw [respelled, overwritten_of_lexeme?_eq_none hnone, withRest_rest,
        lexemes_of_lexeme?_eq_none hnone, List.map_nil]
  | case2 cursor lexeme after h ih =>
      have hafter := hin.reaches (reaches_of_lexeme? h)
      have hhere := Lexeme.isLexemeBefore_respelledText (isLexemeBefore_of_lexeme? h)
      have hbefore : lexeme.form.IsLexemeBefore lexeme.respelledText after.respelled := by
        rcases head?_overwritten hafter with hhead | ⟨word, _, hword, hfault, hhead⟩
        · exact hhere.of_head?_eq hhead
        · -- The next lexeme is a word right behind this one, which must then have a fixed length.
          have hform := (Lexeme.isFault_outcome_iff.mp hfault).1
          have hcut := isLexemeBefore_of_lexeme? hword
          rw [hform, Form.isLexemeBefore_word_iff] at hcut
          obtain ⟨first, hfirst, hletter⟩ := hcut.1.exists_letter
          exact hhere.of_isFixed (hhere.isFixed_of_isLetter (hhead.trans hfirst) hletter)
      have hlength : lexeme.respelledText.length = lexeme.text.length := by
        unfold Lexeme.respelledText
        split <;> simp
      have hrest : cursor.respelled = cursor.blanks ++ (lexeme.respelledText ++ after.respelled) :=
        overwritten_of_lexeme? hin h
      rw [hrest, lexemes_of_lexeme? (lexeme?_withRest h hbefore hlength), ih hafter]
      rfl

theorem outcomes_respelled (source : List Char) :
    (start (overwrite ScanOutcome.isFault 'q' source)).outcomes =
      (start source).outcomes.map (ScanOutcome.respelled source) := by
  have hin := start_isIn source
  have hlexemes : (start (overwrite ScanOutcome.isFault 'q' source)).lexemes =
      (start source).lexemes.map Lexeme.respelled := lexemes_respelled hin
  rw [outcomes_eq_map_lexemes, outcomes_eq_map_lexemes, hlexemes, List.map_map, List.map_map]
  apply List.map_congr_left
  intro lexeme hlexeme
  exact Lexeme.outcome_respelled (eq_lexeme_of_mem_lexemes hin hlexeme)

end Cursor

/-! ## A word of any length

The shortest stem of an entity with a row of ones behind it is refused as soon as the row is longer
than the digits that are read.
-/

section Ones

variable (count : Nat)

theorem isWordText_ones : IsWordText ('v' :: List.replicate count '1') := by
  have hdigit : isWordChar '1' = true := isWordChar_of_isDigit (by decide)
  have hfirst : IsWordText ['v'] := EntitySpace.isWordText_sigil .value
  apply hfirst.append
  simp [List.all_replicate, hdigit]

variable {count}

theorem isOverlong_ones (h : maxNumeralDigits < count) :
    NumberedName.IsOverlong ('v' :: List.replicate count '1') ['v'] (List.replicate count '1') where
  name_eq := rfl
  stem_end := EntitySpace.endsInNoDigit_sigil .value
  digits := by
    intro c hc
    rw [List.eq_of_mem_replicate hc]
    decide
  head?_ne := by simp [List.head?_replicate]
  lt_length := by rwa [List.length_replicate]

theorem refusedWordAhead_ones (h : maxNumeralDigits < count) :
    RefusedWordAhead ('v' :: List.replicate count '1') 0 0 (count + 1) ['v']
      (List.replicate count '1') := by
  have htext := isWordText_ones count
  have hgap : isBlank 'v' = false := by decide
  have hword : ('v' :: List.replicate count '1').takeWhile isWordChar =
      'v' :: List.replicate count '1' :=
    List.takeWhile_eq_self_iff.mpr (List.all_eq_true.mp htext.2)
  refine ⟨?_, ⟨'v', rfl, by decide⟩, ?_, ?_⟩
  · rw [isRun_iff (Nat.zero_le _)]
    simp [hgap]
  · rw [isRun_iff (Nat.zero_le _), List.drop_zero, hword]
    simp
  · have hslice : slice ('v' :: List.replicate count '1') (0 : Nat) (count + 1 : Nat) =
        'v' :: List.replicate count '1' := by
      rw [slice_natCast]
      simp
    rw [hslice]
    exact isOverlong_ones h

theorem read_ones (h : maxNumeralDigits < count) (start line : Nat) :
    (Lexeme.mk .word ('v' :: List.replicate count '1') start line).read =
      .error (.numeralTooLong count) :=
  Lexeme.read_eq_error_iff.mpr
    ⟨rfl, ['v'], _, isOverlong_ones h, by rw [List.length_replicate]⟩

theorem outcomes_ones (h : maxNumeralDigits < count) :
    (Cursor.start ('v' :: List.replicate count '1')).outcomes =
      [.fault (.numeralTooLong count) 0 (count + 1)] := by
  rw [Cursor.outcomes_of_lexeme? (isWordText_ones count).lexeme?_start,
    Cursor.outcomes_of_lexeme?_eq_none rfl, Lexeme.outcome, read_ones h]
  simp

end Ones

/--
A request for the next item fails exactly at a word with a numeral of too many digits, and never
with another fault.  It leaves the cursor behind that word and does not disturb the scan, which
goes on as if the word had been an identifier of the same length.
-/
theorem next_fails_at_refused_words (source : List Char) :
    (∀ requests : List Request, ∀ cursor ∈ sessionCursors (Cursor.start source) requests,
      ∀ (fault : Fault) (after : Cursor), cursor.next = (.error fault, after) ↔
        ∃ start stop stem numeral,
          RefusedWordAhead source cursor.offset start stop stem numeral ∧
          fault = .numeralTooLong numeral.length ∧
          after = ⟨stop, 1 + (source.take start).count '\n', source.drop stop⟩) ∧
    (Cursor.start (overwrite ScanOutcome.isFault 'q' source)).outcomes =
      (Cursor.start source).outcomes.map (ScanOutcome.respelled source) := by
  refine ⟨?_, Cursor.outcomes_respelled source⟩
  intro requests cursor hcursor fault after
  have hin := (Cursor.start_isIn source).reaches (reaches_of_mem_sessionCursors hcursor)
  exact Cursor.next_eq_error_iff_of_isIn hin

theorem next_fails_at_refused_words_ones :
    (Cursor.start ('v' :: List.replicate 4301 '1')).next =
        (.error (.numeralTooLong 4301), ⟨4302, 1, []⟩) ∧
      (Cursor.start
        (overwrite ScanOutcome.isFault 'q' ('v' :: List.replicate 4301 '1'))).outcomes =
        [.item (.token ⟨.identifier, none, List.replicate 4302 'q', 0, 1⟩)] := by
  have hlong : maxNumeralDigits < 4301 := by decide
  obtain ⟨hnext, houtcomes⟩ := next_fails_at_refused_words ('v' :: List.replicate 4301 '1')
  constructor
  · apply (hnext [] _ List.mem_cons_self _ _).mpr
    refine ⟨0, 4302, ['v'], _, refusedWordAhead_ones hlong, ?_, ?_⟩
    · rw [List.length_replicate]
    · rw [List.drop_eq_nil_of_le (by rw [List.length_cons, List.length_replicate])]
      rfl
  · rw [houtcomes, outcomes_ones hlong]
    rfl

/-! ## Sessions without faults -/

def Request.IsPlain (request : Request) : Prop :=
  request = .next ∨ request = .restOfLine

theorem Request.lexemes_run_suffix {request : Request} (h : request.IsPlain) (cursor : Cursor) :
    (request.run cursor).2.lexemes <:+ cursor.lexemes := by
  rcases h with rfl | rfl
  · cases hlexeme : cursor.lexeme? with
    | none =>
        have hrest := Cursor.rest_skipBlanks_eq_nil hlexeme
        simp only [run, Cursor.next_of_lexeme?_eq_none hlexeme, Cursor.lexemes_of_rest_eq_nil hrest]
        exact List.nil_suffix
    | some found =>
        rw [run_next_of_lexeme? hlexeme, Cursor.lexemes_of_lexeme? hlexeme]
        exact List.suffix_cons _ _
  · exact cursor.lexemes_toLineEnd_suffix

theorem Request.exists_run_eq_ok {request : Request} (h : request.IsPlain) {cursor : Cursor}
    (hread : ∀ lexeme ∈ cursor.lexemes, ¬ lexeme.IsRefused) :
    ∃ reply, (request.run cursor).1 = .ok reply := by
  rcases h with rfl | rfl
  · cases hlexeme : cursor.lexeme? with
    | none =>
        refine ⟨.item none, ?_⟩
        simp [run, Cursor.next_of_lexeme?_eq_none hlexeme, Except.map]
    | some found =>
        obtain ⟨lexeme, after⟩ := found
        have hmem : lexeme ∈ cursor.lexemes := by
          rw [Cursor.lexemes_of_lexeme? hlexeme]
          exact List.mem_cons_self
        cases hitem : lexeme.read with
        | error fault => exact absurd (Lexeme.isRefused_iff.mpr ⟨fault, hitem⟩) (hread lexeme hmem)
        | ok item =>
            refine ⟨.item (some item), ?_⟩
            rw [run_next_of_lexeme? hlexeme, hitem, Except.map]
  · exact ⟨_, rfl⟩

theorem exists_eq_ok_of_mem_runSession {cursor : Cursor} {requests : List Request}
    (hplain : ∀ request ∈ requests, request.IsPlain)
    (hread : ∀ lexeme ∈ cursor.lexemes, ¬ lexeme.IsRefused) {entry : Except Fault Reply × Cursor}
    (hentry : entry ∈ runSession cursor requests) : ∃ reply, entry.1 = .ok reply := by
  induction requests generalizing cursor with
  | nil => simp [runSession] at hentry
  | cons request requests ih =>
      obtain ⟨hrequest, hlater⟩ := List.forall_mem_cons.mp hplain
      rcases List.mem_cons.mp hentry with rfl | hmem
      · exact Request.exists_run_eq_ok hrequest hread
      · refine ih hlater ?_ hmem
        intro lexeme hlexeme
        exact hread lexeme ((Request.lexemes_run_suffix hrequest cursor).mem hlexeme)

theorem exists_mem_runSession_of_mem_lexemes {cursor : Cursor} {lexeme : Lexeme}
    (h : lexeme ∈ cursor.lexemes) :
    ∃ count, ∃ entry ∈ runSession cursor (List.replicate count .next),
      entry.1 = lexeme.read.map fun item => .item (some item) := by
  fun_induction Cursor.lexemes cursor with
  | case1 cursor hnone => contradiction
  | case2 cursor first after hfirst ih =>
      rcases List.mem_cons.mp h with rfl | hlater
      · refine ⟨1, Request.next.run cursor, List.mem_cons_self, ?_⟩
        rw [Request.run_next_of_lexeme? hfirst]
      · obtain ⟨count, entry, hentry, hread⟩ := ih hlater
        refine ⟨count + 1, entry, ?_, hread⟩
        rw [List.replicate_succ, runSession, Request.run_next_of_lexeme? hfirst]
        exact List.mem_cons_of_mem _ hentry

theorem Cursor.next_of_maxIndex_lt {cursor after : Cursor} {lexeme : Lexeme}
    (h : cursor.lexeme? = some (lexeme, after)) (hform : lexeme.form = .word) {stem : List Char}
    {number : Nat} (htext : lexeme.text = stem ++ Decimal.natural number)
    (hstem : NumberedName.EndsInNoDigit stem) (hlt : maxIndex < number) :
    cursor.next =
      (if maxNumeralDigits < (Decimal.natural number).length then
        .error (.numeralTooLong (Decimal.natural number).length)
      else .ok (some (.token (lexeme.token .identifier none))), after) := by
  rw [next_of_lexeme? h, Lexeme.read_of_maxIndex_lt hform htext hstem hlt]
  split <;> rfl

/--
Requests for items and for rests of lines are answered in every session exactly when no word of the
source is refused.  A word whose number is out of range is an identifier as long as its digits are
read.
-/
theorem plain_sessions_answer_iff (source : List Char) :
    ((∀ requests : List Request, (∀ request ∈ requests, request.IsPlain) →
        ∀ entry ∈ runSession (Cursor.start source) requests, ∃ reply, entry.1 = .ok reply) ↔
      ∀ lexeme ∈ (Cursor.start source).lexemes, ¬ lexeme.IsRefused) ∧
    ∀ (cursor after : Cursor) (lexeme : Lexeme), cursor.lexeme? = some (lexeme, after) →
      lexeme.form = .word → ∀ (stem : List Char) (number : Nat),
      lexeme.text = stem ++ Decimal.natural number → NumberedName.EndsInNoDigit stem →
      maxIndex < number →
      cursor.next =
        (if maxNumeralDigits < (Decimal.natural number).length then
          .error (.numeralTooLong (Decimal.natural number).length)
        else .ok (some (.token (lexeme.token .identifier none))), after) := by
  refine ⟨⟨?_, ?_⟩, ?_⟩
  · intro hanswers lexeme hlexeme hrefused
    obtain ⟨fault, hread⟩ := Lexeme.isRefused_iff.mp hrefused
    obtain ⟨count, entry, hentry, hreply⟩ := exists_mem_runSession_of_mem_lexemes hlexeme
    have hplain : ∀ request ∈ List.replicate count Request.next, request.IsPlain := by
      intro request hrequest
      exact .inl (List.eq_of_mem_replicate hrequest)
    obtain ⟨reply, hok⟩ := hanswers _ hplain entry hentry
    rw [hreply, hread] at hok
    contradiction
  · intro hread requests hplain entry hentry
    exact exists_eq_ok_of_mem_runSession hplain hread hentry
  · intro cursor after lexeme h hform stem number htext hstem hlt
    exact Cursor.next_of_maxIndex_lt h hform htext hstem hlt

theorem plain_sessions_answer_iff_overflow :
    (Cursor.start ['v', '4', '2', '9', '4', '9', '6', '7', '2', '9', '6']).next =
      (.ok (some (.token ⟨.identifier, none,
        ['v', '4', '2', '9', '4', '9', '6', '7', '2', '9', '6'], 0, 1⟩)), ⟨11, 1, []⟩) :=
  (plain_sessions_answer_iff ['v', '4', '2', '9', '4', '9', '6', '7', '2', '9', '6']).2 _ _
    ⟨.word, ['v', '4', '2', '9', '4', '9', '6', '7', '2', '9', '6'], 0, 1⟩ rfl rfl ['v'] 4294967296
    rfl (EntitySpace.endsInNoDigit_sigil .value) (by decide)

theorem runSession_ones {count : Nat} (h : maxNumeralDigits < count) :
    runSession (Cursor.start ('v' :: List.replicate count '1')) [.next] =
      [(.error (.numeralTooLong count), ⟨count + 1, 1, []⟩)] := by
  have hread := read_ones h 0 1
  rw [runSession, Request.run_next_of_lexeme? (isWordText_ones count).lexeme?_start, hread]
  simp [runSession, Except.map]

theorem plain_session_fails :
    (∀ request ∈ [Request.next], request.IsPlain) ∧
      runSession (Cursor.start ('v' :: List.replicate 4301 '1')) [.next] =
        [(.error (.numeralTooLong 4301), ⟨4302, 1, []⟩)] := by
  refine ⟨?_, runSession_ones (by decide)⟩
  intro request hrequest
  exact .inl (List.mem_singleton.mp hrequest)

end IRLexer
