import IRLexer.Proofs.NumberKind
import IRLexer.Proofs.ScannerView
import IRLexer.Reader

/-!
# Reading step by step

At every test a reader has an answer in view, the one that it comes to if it comes to one, and no
step changes it.  For a reader that starts, this is the answer of its request at the cursor of the
scanner.
-/

namespace IRLexer

namespace Cursor

def textTo (mark after : Cursor) : List Char :=
  mark.rest.take (after.offset - mark.offset)

def tokenTo (mark after : Cursor) (kind : Kind) : Token :=
  ⟨kind, none, mark.textTo after, mark.offset, mark.line⟩

def readWordTo (mark after : Cursor) : Except Fault Token :=
  Lexeme.readWord ⟨.word, mark.textTo after, mark.offset, mark.line⟩

theorem textTo_skip (cursor : Cursor) (count : Nat) :
    cursor.textTo (cursor.skip count) = cursor.rest.take count := by
  rw [textTo, skip, Nat.add_sub_cancel_left, List.length_take, ← List.take_eq_take_min]

end Cursor

namespace Cursor

def tokenResult (mark after : Cursor) (kind : Kind) : Except Fault (Option Item) × Cursor :=
  (.ok (some (.token (mark.tokenTo after kind))), after)

def wordResult (mark cursor : Cursor) : Except Fault (Option Item) × Cursor :=
  let after := cursor.skipWhile isWordChar
  ((mark.readWordTo after).map fun token => some (.token token), after)

def runResult (mark cursor : Cursor) (isFloat : Bool) : Except Fault (Option Item) × Cursor :=
  mark.tokenResult (cursor.skipWhile isNumberChar)
    (if isFloat || (cursor.rest.takeWhile isNumberChar).contains '.' then .float else .integer)

def payloadResult (mark cursor : Cursor) : Except Fault (Option Item) × Cursor :=
  let intro := NumberLiteral.introLength cursor.rest
  mark.runResult (cursor.skip intro)
    (intro ≠ 0 || cursor.lookingAt NumberLiteral.quietName ||
      cursor.lookingAt NumberLiteral.infinityName)

end Cursor

/-- What is answered from the test on, and the cursor that the answer leaves. -/
def Control.result (mark cursor : Cursor) : Control → Except Fault (Option Item) × Cursor
  | .next => cursor.next
  | .chars left kind =>
      if left ≤ cursor.rest.length then mark.tokenResult (cursor.skip left) kind
      else (.error .textTooShort, cursor.skip left)
  | .comment => mark.tokenResult cursor.toLineEnd .comment
  | .number => mark.payloadResult (cursor.skip (NumberLiteral.signLength cursor.rest))
  | .payload => mark.payloadResult cursor
  | .colon => mark.runResult (cursor.skip ((cursor.rest.takeWhile (· ≠ ':')).length + 1)) true
  | .run isFloat => mark.runResult cursor isFloat
  | .word =>
      if cursor.lookahead.any isWordStart then mark.wordResult (cursor.skip 1)
      else (.error .noWord, cursor)
  | .wordRun => mark.wordResult cursor
  | .answered result => (result, cursor)

namespace Reader

def markCursor (reader : Reader) : Cursor :=
  ⟨reader.mark, reader.line, reader.scanner.source.drop reader.mark⟩

def result (reader : Reader) : Except Fault (Option Item) × Cursor :=
  reader.control.result reader.markCursor reader.scanner.cursor

end Reader

namespace Cursor

variable {cursor : Cursor} {c : Char} {test : Char → Bool}

theorem skipWhile_of_lookahead_eq_none (h : cursor.lookahead = none) :
    cursor.skipWhile test = cursor :=
  skip_of_lookahead_eq_none h _

theorem skipWhile_of_pos (h : cursor.lookahead = some c) (htest : test c = true) :
    cursor.skipWhile test = (cursor.skip 1).skipWhile test := by
  have hlength : (cursor.rest.takeWhile test).length =
      1 + ((cursor.skip 1).rest.takeWhile test).length := by
    rw [rest_of_lookahead h, List.takeWhile_cons_of_pos htest, List.length_cons, Nat.add_comm]
  rw [skipWhile, hlength, skipWhile, skip_skip]

theorem skipWhile_of_neg (h : cursor.lookahead = some c) (htest : test c = false) :
    cursor.skipWhile test = cursor := by
  have hnone : cursor.rest.takeWhile test = [] := by
    rw [rest_of_lookahead h]
    exact List.takeWhile_cons_of_neg (by simp [htest])
  rw [skipWhile, hnone]
  exact cursor.skip_zero

theorem next_of_lookahead_eq_none (h : cursor.lookahead = none) :
    cursor.next = (.ok none, cursor) := by
  have hskip : cursor.skipBlanks = cursor := skipWhile_of_lookahead_eq_none h
  have hrest : cursor.rest = [] := List.head?_eq_none_iff.mp h
  have hnone : cursor.lexeme? = none := by
    rw [lexeme?, hskip, hrest]
  rw [next_of_lexeme?_eq_none hnone, hskip]

theorem next_of_isBlank (h : cursor.lookahead = some c) (hblank : isBlank c = true) :
    cursor.next = (cursor.skip 1).next := by
  have hskip : cursor.skipBlanks = (cursor.skip 1).skipBlanks := skipWhile_of_pos h hblank
  simp only [next, lexeme?, hskip]

theorem next_of_starting {form : Form} (h : cursor.lookahead = some c) (hblank : isBlank c = false)
    (hform : Form.starting c (cursor.skip 1).rest = form) :
    cursor.next = ((cursor.cut form (form.extent cursor.rest)).1.read.map some,
      cursor.skip (form.extent cursor.rest)) := by
  have hskip : cursor.skipBlanks = cursor := skipWhile_of_neg h hblank
  have hlexeme : cursor.lexeme? = some (cursor.cut form (form.extent cursor.rest)) := by
    have hrest := rest_of_lookahead h
    rw [lexeme?, hskip]
    split
    · next hnil => simp [hnil] at hrest
    · next first later hcons =>
        rw [hcons] at hrest ⊢
        obtain ⟨rfl, rfl⟩ := List.cons.inj hrest
        rw [hform]
  rw [next_of_lexeme? hlexeme]
  rfl

theorem word_of_lookahead (h : cursor.lookahead = some c) (hstart : isWordStart c = true) :
    cursor.word = ((cursor.cut .word (Form.word.extent cursor.rest)).1.readWord,
      cursor.skip (Form.word.extent cursor.rest)) := by
  simp only [word, h, hstart, if_true]
  rfl

end Cursor

theorem NumberLiteral.kind_take_extent {text : List Char} :
    kind (text.take (extent text)) =
      if (introLength (unsigned text) ≠ 0 || quietName.isPrefixOf (unsigned text) ||
          infinityName.isPrefixOf (unsigned text)) || (run text).contains '.' then .float
      else .integer := by
  split
  · next hmark =>
      rw [kind_take_extent_eq_float_iff]
      simpa [Nat.pos_iff_ne_zero, or_assoc] using hmark
  · next hmark =>
      apply (kind_eq_float_or_integer _).resolve_left
      rw [kind_take_extent_eq_float_iff]
      simpa [Nat.pos_iff_ne_zero, or_assoc] using hmark

namespace Control

variable (cursor : Cursor)

theorem result_chars (count : Nat) (kind : Kind) :
    (chars count kind).result cursor cursor =
      ((cursor.chars count kind).1.map fun token => some (.token token),
        (cursor.chars count kind).2) := by
  by_cases h : count ≤ cursor.rest.length
  · simp only [result, Cursor.chars, h, if_true, Cursor.tokenResult, Cursor.tokenTo,
      Cursor.textTo_skip, Except.map]
  · simp only [result, Cursor.chars, h, if_false, Except.map]

theorem result_chars_of_le {count : Nat} (h : count ≤ cursor.rest.length) (kind : Kind) :
    (chars count kind).result cursor cursor =
      (.ok (some (.token ⟨kind, none, cursor.rest.take count, cursor.offset, cursor.line⟩)),
        cursor.skip count) := by
  rw [result_chars, Cursor.chars, if_pos h]
  rfl

theorem result_comment :
    comment.result cursor cursor = (.ok (some (.token cursor.comment.1)), cursor.comment.2) := by
  simp only [result, Cursor.tokenResult, Cursor.tokenTo, Cursor.toLineEnd_eq_skip,
    Cursor.textTo_skip]
  rfl

theorem result_number :
    number.result cursor cursor = (.ok (some (.token cursor.number.1)), cursor.number.2) := by
  have hunsigned : (cursor.skip (NumberLiteral.signLength cursor.rest)).rest =
      NumberLiteral.unsigned cursor.rest := rfl
  have hrun : ((cursor.skip (NumberLiteral.signLength cursor.rest)).skip
      (NumberLiteral.introLength (NumberLiteral.unsigned cursor.rest))).rest.takeWhile
        isNumberChar = NumberLiteral.run cursor.rest := by
    rw [Cursor.rest_skip, hunsigned, NumberLiteral.run_eq]
  have hskip : ((cursor.skip (NumberLiteral.signLength cursor.rest)).skip
      (NumberLiteral.introLength (NumberLiteral.unsigned cursor.rest))).skipWhile isNumberChar =
        cursor.skip (NumberLiteral.extent cursor.rest) := by
    rw [Cursor.skipWhile, hrun, Cursor.skip_skip, Cursor.skip_skip, ← Nat.add_assoc]
    rfl
  simp only [result, Cursor.payloadResult, Cursor.runResult, Cursor.tokenResult,
    Cursor.tokenTo, hunsigned, hskip, hrun, Cursor.textTo_skip, Cursor.lookingAt,
    ← NumberLiteral.kind_take_extent]
  rfl

theorem result_word :
    word.result cursor cursor =
      (cursor.word.1.map fun token => some (.token token), cursor.word.2) := by
  cases h : cursor.lookahead with
  | none =>
      simp only [result, Cursor.word, h, Option.any_none, Except.map]
      rfl
  | some first =>
      by_cases hstart : isWordStart first = true
      · have hskip : (cursor.skip 1).skipWhile isWordChar =
            cursor.skip (Form.word.extent cursor.rest) :=
          (Cursor.skipWhile_of_pos h (isWordChar_of_isWordStart hstart)).symm
        simp only [result, Cursor.word, h, Option.any_some, hstart, if_true,
          Cursor.wordResult, hskip, Cursor.readWordTo, Cursor.textTo_skip]
        rfl
      · simp only [result, Cursor.word, h, Option.any_some, hstart, Except.map]
        rfl

end Control

/-! ## A step does not change the answer -/

theorem Cursor.lookingAt_arrow_iff {cursor : Cursor} {later : List Char}
    (h : cursor.rest = '-' :: later) :
    cursor.lookingAt ['-', '>'] = true ↔ later.head? = some '>' := by
  rw [lookingAt, List.isPrefixOf_iff_prefix, h, List.cons_prefix_cons, and_iff_right rfl]
  cases later with
  | nil => simp
  | cons second later => simp [List.cons_prefix_cons, @eq_comm _ second]

theorem Cursor.lookingAt_payload (cursor : Cursor) :
    (cursor.lookingAt NumberLiteral.quietPayload ||
      cursor.lookingAt NumberLiteral.signalingPayload) =
        decide (NumberLiteral.introLength cursor.rest ≠ 0) := by
  unfold lookingAt NumberLiteral.introLength
  split
  · next hquiet => rw [hquiet]; rfl
  · next hquiet =>
      rw [Bool.not_eq_true] at hquiet
      split
      · next hsignaling => rw [hsignaling, Bool.or_true]; rfl
      · next hsignaling =>
          rw [Bool.not_eq_true] at hsignaling
          rw [hquiet, hsignaling]
          rfl

theorem NumberLiteral.introLength_eq_colon {text : List Char} (h : introLength text ≠ 0) :
    introLength text = (text.takeWhile (· ≠ ':')).length + 1 := by
  have hsplit (payload later : List Char) (hinside : ∀ c ∈ payload, decide (c ≠ ':') = true) :
      ((payload ++ ':' :: later).takeWhile (· ≠ ':')).length = payload.length := by
    rw [takeWhile_append_of_head hinside (by simp)]
  rcases payload_of_introLength h with ⟨⟨later, rfl⟩, hlength⟩ | ⟨⟨later, rfl⟩, hlength⟩
  · rw [hlength]
    exact congrArg (· + 1) (hsplit ['N', 'a', 'N'] later (by simp)).symm
  · rw [hlength]
    exact congrArg (· + 1) (hsplit ['s', 'N', 'a', 'N'] later (by simp)).symm

namespace Reader

variable {source : List Char}

theorem text_eq (reader : Reader) : reader.text = reader.markCursor.textTo reader.scanner.cursor :=
  reader.scanner.text_eq _ _

theorem result_start (control : Control) (scanner : Scanner) :
    (start control scanner).result = control.result scanner.cursor scanner.cursor :=
  rfl

theorem result_goto (reader : Reader) (control : Control) :
    (reader.goto control).result = control.result reader.markCursor reader.scanner.cursor :=
  rfl

theorem result_advance {reader : Reader} (h : reader.scanner.StandsIn source) (control : Control) :
    (reader.advance control).result =
      control.result reader.markCursor (reader.scanner.cursor.skip 1) := by
  have hsource : reader.scanner.advance.source = reader.scanner.source := by
    rw [h.advance.source_eq, h.source_eq]
  rw [result, advance, markCursor, hsource, h.cursor_advance]
  rfl

theorem result_answerToken (reader : Reader) (kind : Kind) :
    (reader.answerToken kind).result =
      reader.markCursor.tokenResult reader.scanner.cursor kind := by
  rw [answerToken, result_goto, text_eq]
  rfl

theorem result_answerWord (reader : Reader) :
    reader.answerWord.result =
      ((reader.markCursor.readWordTo reader.scanner.cursor).map fun token => some (.token token),
        reader.scanner.cursor) := by
  rw [answerWord, result_goto, text_eq]
  rfl

variable {reader : Reader}

theorem result_of_control {control : Control} (h : reader.control = control) :
    reader.result = control.result reader.markCursor reader.scanner.cursor := by
  rw [result, h]

theorem result_dispatch_sign (hahead : reader.scanner.cursor.lookahead = some '-') :
    (reader.dispatch '-').result = reader.scanner.cursor.next := by
  have hrest := Cursor.rest_of_lookahead hahead
  have hdispatch : reader.dispatch '-' =
      if reader.scanner.lookingAt ['-', '>'] then start (.chars 2 .arrow) reader.scanner
      else start .number reader.scanner := rfl
  rw [hdispatch, reader.scanner.lookingAt_eq]
  split
  · next harrow =>
      have htwo : 2 ≤ reader.scanner.cursor.rest.length :=
        (List.isPrefixOf_iff_prefix.mp harrow).length_le
      rw [Cursor.next_of_starting hahead (by decide)
        (Form.starting_arrow ((Cursor.lookingAt_arrow_iff hrest).mp harrow)), result_start,
        Control.result_chars_of_le _ htwo]
      rfl
  · next harrow =>
      have hlater : (reader.scanner.cursor.skip 1).rest.head? ≠ some '>' := fun hhead =>
        harrow ((Cursor.lookingAt_arrow_iff hrest).mpr hhead)
      rw [Cursor.next_of_starting hahead (by decide) (Form.starting_sign hlater), result_start,
        Control.result_number]
      rfl

variable (h : reader.scanner.StandsIn source)

include h

theorem result_dispatch {first : Char} (hahead : reader.scanner.cursor.lookahead = some first) :
    (reader.dispatch first).result = reader.scanner.cursor.next := by
  by_cases hcomment : first = ';'
  · rw [dispatch, if_pos hcomment, result_start, Control.result_comment]
    subst hcomment
    rw [Cursor.next_of_starting hahead (by decide) (Form.starting_semicolon _)]
    rfl
  cases hkind : punctuationKind? first with
  | some kind =>
      have hmem := mem_punctuation_of_punctuationKind? hkind
      have hone : 1 ≤ reader.scanner.cursor.rest.length := by
        rw [Cursor.rest_of_lookahead hahead, List.length_cons]
        exact Nat.le_add_left _ _
      rw [Cursor.next_of_starting hahead (apart_of_mem_punctuation hmem).2.2.2.2
        (Form.starting_of_mem_punctuation hmem _)]
      simp only [dispatch, hcomment, hkind, if_false]
      rw [result_start, Control.result_chars_of_le _ hone]
      rfl
  | none =>
      by_cases hsign : first = '-'
      · subst hsign
        exact result_dispatch_sign hahead
      simp only [dispatch, hcomment, hkind, hsign, if_false]
      cases hdigit : first.isDigit with
      | true =>
          have hblank := isBlank_eq_false_of_isWordChar (isWordChar_of_isDigit hdigit)
          rw [Cursor.next_of_starting hahead hblank (Form.starting_of_isDigit hdigit _), if_pos rfl,
            result_start, Control.result_number]
          rfl
      | false =>
          rw [if_neg Bool.false_ne_true]
          cases hletter : isLetter first with
          | true =>
              have hblank := isBlank_eq_false_of_isWordChar (isWordChar_of_isLetter hletter)
              have hstart := isWordStart_of_isLetter hletter
              rw [Cursor.next_of_starting hahead hblank (Form.starting_of_isLetter hletter _),
                if_pos rfl, result_start, Control.result_word,
                Cursor.word_of_lookahead hahead hstart, Lexeme.read_of_word rfl]
              cases (reader.scanner.cursor.cut .word
                (Form.word.extent reader.scanner.cursor.rest)).1.readWord <;> rfl
          | false =>
              rw [if_neg Bool.false_ne_true]
              cases hblank : isBlank first with
              | true =>
                  rw [if_pos rfl, result_advance h]
                  exact (Cursor.next_of_isBlank hahead hblank).symm
              | false =>
                  have hpunctuation : ∀ kind, (first, kind) ∉ punctuation := by
                    intro kind hmem
                    rw [punctuationKind?_of_mem hmem] at hkind
                    contradiction
                  rw [if_neg Bool.false_ne_true, result_advance h,
                    Cursor.next_of_starting hahead hblank
                      (Form.starting_stray hcomment hpunctuation hsign hdigit hletter _)]
                  rfl

theorem result_step_chars {left : Nat} {kind : Kind}
    (hcontrol : reader.control = .chars left kind) : reader.step.result = reader.result := by
  have hahead := h.lookahead_cursor
  rw [result_of_control hcontrol]
  cases left with
  | zero =>
      simp only [step, hcontrol, result_answerToken, Control.result, Nat.zero_le, if_true,
        Cursor.skip_zero]
  | succ left =>
      cases hnext : reader.scanner.lookahead with
      | none =>
          rw [hnext] at hahead
          have hrest : reader.scanner.cursor.rest = [] := List.head?_eq_none_iff.mp hahead
          simp [step, hcontrol, hnext, result_goto, Control.result, hrest,
            Cursor.skip_of_lookahead_eq_none hahead]
      | some c =>
          rw [hnext] at hahead
          have hrest := Cursor.rest_of_lookahead hahead
          simp only [step, hcontrol, hnext, result_advance h, Control.result, Cursor.skip_skip,
            Nat.add_comm 1 left, hrest, List.length_cons, Nat.add_le_add_iff_right]

theorem result_step_comment (hcontrol : reader.control = .comment) :
    reader.step.result = reader.result := by
  have hstep : reader.step =
      ({ reader with scanner := reader.scanner.toLineEnd } : Reader).answerToken .comment := by
    simp only [step, hcontrol]
  rw [hstep, result_of_control hcontrol, result_answerToken, h.cursor_toLineEnd]
  rfl

theorem result_step_number (hcontrol : reader.control = .number) :
    reader.step.result = reader.result := by
  have hlength := NumberLiteral.signLength_eq reader.scanner.cursor.rest
  rw [result_of_control hcontrol]
  by_cases hsign : reader.scanner.lookahead = some '-'
  · have hhead : reader.scanner.cursor.rest.head? = some '-' := h.lookahead_cursor.trans hsign
    rw [if_pos hhead] at hlength
    simp only [step, hcontrol, hsign, if_true, result_advance h, Control.result, hlength]
  · have hhead : reader.scanner.cursor.rest.head? ≠ some '-' := fun hhead =>
      hsign (h.lookahead_cursor.symm.trans hhead)
    rw [if_neg hhead] at hlength
    simp only [step, hcontrol, hsign, if_false, result_goto, Control.result, hlength,
      Cursor.skip_zero]

omit h in
theorem step_payload (hcontrol : reader.control = .payload) :
    reader.step =
      if NumberLiteral.introLength reader.scanner.cursor.rest ≠ 0 then reader.goto .colon
      else reader.goto (.run (reader.scanner.cursor.lookingAt NumberLiteral.quietName ||
        reader.scanner.cursor.lookingAt NumberLiteral.infinityName)) := by
  have hlooking := reader.scanner.cursor.lookingAt_payload
  simp only [step, hcontrol, Scanner.lookingAt_eq, hlooking, decide_eq_true_eq]

omit h in
theorem result_step_payload (hcontrol : reader.control = .payload) :
    reader.step.result = reader.result := by
  rw [result_of_control hcontrol, step_payload hcontrol]
  by_cases hintro : NumberLiteral.introLength reader.scanner.cursor.rest = 0
  · simp [hintro, result_goto, Control.result, Cursor.payloadResult, Cursor.skip_zero]
  · rw [if_pos hintro, result_goto]
    simp only [Control.result, Cursor.payloadResult, NumberLiteral.introLength_eq_colon hintro]
    simp

theorem result_step_colon (hcontrol : reader.control = .colon) :
    reader.step.result = reader.result := by
  have hahead := h.lookahead_cursor
  rw [result_of_control hcontrol]
  cases hnext : reader.scanner.lookahead with
  | none =>
      rw [hnext] at hahead
      simp [step, hcontrol, hnext, result_advance h, Control.result,
        Cursor.skip_of_lookahead_eq_none hahead]
  | some c =>
      rw [hnext] at hahead
      have hrest := Cursor.rest_of_lookahead hahead
      by_cases hcolon : c = ':'
      · subst hcolon
        simp [step, hcontrol, hnext, result_advance h, Control.result, hrest]
      · simp [step, hcontrol, hnext, hcolon, result_advance h, Control.result, hrest,
          Cursor.skip_skip, Nat.add_comm]

theorem result_step_run {isFloat : Bool} (hcontrol : reader.control = .run isFloat) :
    reader.step.result = reader.result := by
  have hahead := h.lookahead_cursor
  rw [result_of_control hcontrol]
  cases hnext : reader.scanner.lookahead with
  | none =>
      rw [hnext] at hahead
      have hrest : reader.scanner.cursor.rest = [] := List.head?_eq_none_iff.mp hahead
      simp [step, hcontrol, hnext, answerNumber, result_answerToken, Control.result,
        Cursor.runResult, hrest, Cursor.skipWhile_of_lookahead_eq_none hahead]
  | some c =>
      rw [hnext] at hahead
      have hrest := Cursor.rest_of_lookahead hahead
      by_cases hpoint : c = '.'
      · subst hpoint
        have hinside : isNumberChar '.' = true := by decide
        simp [step, hcontrol, hnext, result_advance h, Control.result, Cursor.runResult, hrest,
          hinside, Cursor.skipWhile_of_pos hahead hinside]
      · cases hinside : isNumberChar c with
        | true =>
            simp [step, hcontrol, hnext, hpoint, hinside, result_advance h, Control.result,
              Cursor.runResult, hrest, Cursor.skipWhile_of_pos hahead hinside, Ne.symm hpoint]
        | false =>
            simp [step, hcontrol, hnext, hpoint, hinside, answerNumber, result_answerToken,
              Control.result, Cursor.runResult, hrest, Cursor.skipWhile_of_neg hahead hinside]

theorem result_step_word (hcontrol : reader.control = .word) :
    reader.step.result = reader.result := by
  have hahead := h.lookahead_cursor
  rw [result_of_control hcontrol]
  cases hnext : reader.scanner.lookahead with
  | none =>
      rw [hnext] at hahead
      simp [step, hcontrol, hnext, hahead, result_goto, Control.result]
  | some first =>
      rw [hnext] at hahead
      cases hstart : isWordStart first with
      | true => simp [step, hcontrol, hnext, hahead, hstart, result_advance h, Control.result]
      | false => simp [step, hcontrol, hnext, hahead, hstart, result_goto, Control.result]

theorem result_step_wordRun (hcontrol : reader.control = .wordRun) :
    reader.step.result = reader.result := by
  have hahead := h.lookahead_cursor
  rw [result_of_control hcontrol]
  cases hnext : reader.scanner.lookahead with
  | none =>
      rw [hnext] at hahead
      simp [step, hcontrol, hnext, result_answerWord, Control.result, Cursor.wordResult,
        Cursor.skipWhile_of_lookahead_eq_none hahead]
  | some c =>
      rw [hnext] at hahead
      cases hinside : isWordChar c with
      | true =>
          simp [step, hcontrol, hnext, hinside, result_advance h, Control.result,
            Cursor.wordResult, Cursor.skipWhile_of_pos hahead hinside]
      | false =>
          simp [step, hcontrol, hnext, hinside, result_answerWord, Control.result,
            Cursor.wordResult, Cursor.skipWhile_of_neg hahead hinside]

theorem result_step : reader.step.result = reader.result := by
  cases hcontrol : reader.control with
  | next =>
      have hahead := h.lookahead_cursor
      have hresult : reader.result = reader.scanner.cursor.next := by
        rw [result_of_control hcontrol]
        rfl
      cases hnext : reader.scanner.lookahead with
      | none =>
          rw [hnext] at hahead
          rw [hresult, Cursor.next_of_lookahead_eq_none hahead]
          simp only [step, hcontrol, hnext]
          rfl
      | some first =>
          rw [hnext] at hahead
          rw [hresult]
          simp only [step, hcontrol, hnext]
          exact result_dispatch h hahead
  | chars left kind => exact result_step_chars h hcontrol
  | comment => exact result_step_comment h hcontrol
  | number => exact result_step_number h hcontrol
  | payload => exact result_step_payload hcontrol
  | colon => exact result_step_colon h hcontrol
  | run isFloat => exact result_step_run h hcontrol
  | word => exact result_step_word h hcontrol
  | wordRun => exact result_step_wordRun h hcontrol
  | answered given => simp only [step, hcontrol]

omit h in
theorem result_of_answered {given : Except Fault (Option Item)}
    (hcontrol : reader.control = .answered given) :
    reader.result = (given, reader.scanner.cursor) :=
  result_of_control hcontrol

end Reader

end IRLexer
