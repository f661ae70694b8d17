import IRLexer.Proofs.Concatenation
import IRLexer.Proofs.Overwriting
import IRLexer.Proofs.Tokenization

/-!
# Comments as blanks

A source in which every comment is overwritten by spaces is scanned as before, without the comments.
A space ends whatever stood in front of a comment just as the semicolon did, and the spaces join the
blanks in front of the next lexeme.  Leaving comments out of a token stream is therefore the same as
erasing them from its source.
-/

namespace IRLexer

def ScanOutcome.isComment : ScanOutcome → Bool
  | .item found => found.isComment
  | .fault .. => false

/-- The source with a space in place of every character of a comment. -/
def eraseComments (source : List Char) : List Char :=
  overwrite ScanOutcome.isComment ' ' source

theorem ScanOutcome.isComment_iff {outcome : ScanOutcome} :
    outcome.isComment = true ↔ outcome.span.form = .comment := by
  rcases outcome with (⟨kind, payload, text, start, line⟩ | error) | ⟨cause, start, stop⟩
  · cases kind <;> simp [isComment, Item.isComment, span, Item.span, Kind.form]
  · simp [isComment, Item.isComment, span, Item.span]
  · simp [isComment, span]

namespace Cursor

variable {cursor after : Cursor} {lexeme : Lexeme} {source : List Char}

def erased (cursor : Cursor) : List Char :=
  cursor.overwritten ScanOutcome.isComment ' '

theorem isComment_outcome_iff (hin : cursor.IsIn source)
    (h : cursor.lexeme? = some (lexeme, after)) :
    lexeme.outcome.isComment = true ↔ lexeme.form = .comment := by
  rw [ScanOutcome.isComment_iff, span_outcome hin h]
  exact Iff.rfl

theorem head?_erased (cursor : Cursor) :
    cursor.erased.head? = cursor.rest.head? ∨ cursor.erased.head? = some ' ' := by
  unfold erased overwritten
  cases cursor.rest with
  | nil => exact .inl rfl
  | cons first later =>
      rw [List.mapIdx_cons, List.head?_cons]
      split
      · exact .inr rfl
      · exact .inl rfl

theorem isLexemeBefore_erased (h : cursor.lexeme? = some (lexeme, after))
    (hform : lexeme.form ≠ .comment) :
    lexeme.form.IsLexemeBefore lexeme.text after.erased := by
  rcases after.head?_erased with hsame | hspace
  · exact (isLexemeBefore_of_lexeme? h).of_head?_eq hsame
  · apply (isLexeme_of_lexeme? h).before
    intro c hhead
    rw [hspace] at hhead
    rw [← Option.some.inj hhead]
    exact ⟨by decide, fun hcomment => absurd hcomment hform⟩

theorem lexemes_withRest_of_comment (h : cursor.lexeme? = some (lexeme, after))
    (later : List Char) :
    (cursor.withRest
        (cursor.blanks ++ (List.replicate lexeme.text.length ' ' ++ later))).lexemes =
      (after.withRest later).lexemes := by
  obtain ⟨hstart, hstop⟩ := place_of_lexeme? h
  obtain ⟨hline, hafterLine⟩ := line_of_lexeme? h
  have hspaces : ∀ c ∈ cursor.blanks ++ List.replicate lexeme.text.length ' ',
      isBlank c = true := by
    intro c hc
    rcases List.mem_append.mp hc with hblank | hspace
    · exact isBlank_of_mem_blanks hblank
    · rw [List.eq_of_mem_replicate hspace]
      decide
  have hlines : (List.replicate lexeme.text.length ' ').count '\n' = 0 := by
    rw [List.count_replicate]
    rfl
  have hskip : (cursor.withRest
      (cursor.blanks ++ (List.replicate lexeme.text.length ' ' ++ later))).skip
        (cursor.blanks ++ List.replicate lexeme.text.length ' ').length =
      after.withRest later := by
    rw [← List.append_assoc, skip_withRest_append]
    have hblankLines : cursor.skipBlanks.line = cursor.line + cursor.blanks.count '\n' := by
      rw [← skip_blanks]
      simp only [skip, blanks, take_length_takeWhile]
    simp only [withRest, Cursor.mk.injEq, and_true, List.length_append, List.length_replicate,
      List.count_append, hlines]
    rw [hstop, hstart, offset_skipBlanks, hafterLine, hline, hblankLines]
    omega
  rw [← hskip]
  refine (lexemes_skip_of_isBlank ?_ ?_).symm
  · simp only [withRest, List.length_append]
    omega
  · rwa [withRest, ← List.append_assoc, List.take_left]

theorem lexemes_erased (hin : cursor.IsIn source) :
    (cursor.withRest cursor.erased).lexemes =
      cursor.lexemes.filter fun lexeme => !lexeme.outcome.isComment := by
  fun_induction lexemes cursor with
  | case1 cursor hnone =>
      rw [erased, overwritten_of_lexeme?_eq_none hnone, withRest_rest,
        lexemes_of_lexeme?_eq_none hnone, List.filter_nil]
  | case2 cursor lexeme after h ih =>
      have hlater := ih (hin.reaches (reaches_of_lexeme? h))
      have hrest : cursor.erased = cursor.blanks ++
          ((if lexeme.outcome.isComment then List.replicate lexeme.text.length ' '
            else lexeme.text) ++ after.erased) :=
        overwritten_of_lexeme? hin h
      cases hcomment : lexeme.outcome.isComment with
      | true =>
          rw [hrest, hcomment, if_pos rfl, lexemes_withRest_of_comment h, hlater,
            List.filter_cons_of_neg (by simp [hcomment])]
      | false =>
          have hform : lexeme.form ≠ .comment := by
            rw [ne_eq, ← isComment_outcome_iff hin h, hcomment]
            decide
          have hfound := lexeme?_withRest h (isLexemeBefore_erased h hform) rfl
          rw [hrest, hcomment, if_neg Bool.false_ne_true, lexemes_of_lexeme? hfound, hlater,
            List.filter_cons_of_pos (by simp [hcomment])]

end Cursor

theorem outcomes_eraseComments (source : List Char) :
    (Cursor.start (eraseComments source)).outcomes =
      (Cursor.start source).outcomes.filter fun outcome => !outcome.isComment := by
  have hlexemes : (Cursor.start (eraseComments source)).lexemes =
      (Cursor.start source).lexemes.filter fun lexeme => !lexeme.outcome.isComment :=
    Cursor.lexemes_erased (Cursor.start_isIn source)
  rw [Cursor.outcomes_eq_map_lexemes, hlexemes, Cursor.outcomes_eq_map_lexemes, List.filter_map]
  rfl

def stopAtFault : List ScanOutcome → List Item × Option Fault
  | [] => ([], none)
  | .item item :: later => (item :: (stopAtFault later).1, (stopAtFault later).2)
  | .fault cause _ _ :: _ => ([], some cause)

theorem Cursor.drain_eq_stopAtFault (cursor : Cursor) :
    (cursor.drain.items, cursor.drain.fault) = stopAtFault cursor.outcomes := by
  fun_induction drain cursor with
  | case1 cursor hlexeme =>
      rw [outcomes_of_lexeme?_eq_none hlexeme]
      rfl
  | case2 cursor lexeme after hlexeme fault hread =>
      rw [outcomes_of_lexeme? hlexeme, Lexeme.outcome, hread]
      rfl
  | case3 cursor lexeme after hlexeme item hread ih =>
      rw [outcomes_of_lexeme? hlexeme, Lexeme.outcome, hread, stopAtFault, ← ih]
      rfl

theorem stopAtFault_filter (outcomes : List ScanOutcome) :
    stopAtFault (outcomes.filter fun outcome => !outcome.isComment) =
      ((stopAtFault outcomes).1.filter fun item => !item.isComment, (stopAtFault outcomes).2) := by
  induction outcomes with
  | nil => rfl
  | cons outcome later ih =>
      cases outcome with
      | fault cause start stop => rfl
      | item item =>
          cases hcomment : item.isComment with
          | true =>
              rw [List.filter_cons_of_neg (by simp [ScanOutcome.isComment, hcomment]), ih]
              simp [stopAtFault, hcomment]
          | false =>
              rw [List.filter_cons_of_pos (by simp [ScanOutcome.isComment, hcomment])]
              simp [stopAtFault, ih, hcomment]

theorem scan_eraseComments (source : List Char) :
    (scan (eraseComments source)).items = (scan source).items.filter (fun item => !item.isComment) ∧
      (scan (eraseComments source)).fault = (scan source).fault := by
  have herased := (Cursor.start (eraseComments source)).drain_eq_stopAtFault
  rw [outcomes_eraseComments, stopAtFault_filter, ← Cursor.drain_eq_stopAtFault] at herased
  exact Prod.mk.inj herased

/-! ## Streams without comments -/

namespace Config

theorem tokenization_prepend_congr {config other : Config} {scanned rescanned : Scan} {item : Item}
    (hkeeps : config.keeps item = true) (hother : other.keeps item = true)
    (hstrict : config.strict = other.strict) (hfile : config.sourceFile = other.sourceFile)
    (hlater : ∀ tokens errors,
      config.tokenization tokens errors scanned = other.tokenization tokens errors rescanned)
    (tokens errors : Nat) :
    config.tokenization tokens errors (scanned.prepend item) =
      other.tokenization tokens errors (rescanned.prepend item) := by
  cases item with
  | token token =>
      rw [tokenization_token _ _ _ hkeeps, tokenization_token _ _ _ hother, hlater]
  | invalid error =>
      cases h : config.strict with
      | true =>
          rw [tokenization_invalid_of_strict _ _ _ h,
            tokenization_invalid_of_strict _ _ _ (hstrict.symm.trans h), hfile]
      | false =>
          rw [tokenization_invalid _ _ _ h, tokenization_invalid _ _ _ (hstrict.symm.trans h),
            hlater]

variable (config : Config)

def skipping (skipped : Bool) : Config :=
  { config with skipComments := skipped }

theorem keeps_skipping (skipped : Bool) (item : Item) :
    (config.skipping skipped).keeps item = !(skipped && item.isComment) :=
  rfl

theorem tokenization_skipping (items : List Item) (fault : Option Fault) (cursor other : Cursor)
    (tokens errors : Nat) :
    (config.skipping false).tokenization tokens errors
        ⟨items.filter fun item => !item.isComment, fault, cursor⟩ =
      (config.skipping true).tokenization tokens errors ⟨items, fault, other⟩ := by
  induction items generalizing tokens errors with
  | nil => simp [tokenization, failure?, errorsMet, skipping]
  | cons item later ih =>
      have hsplit : Scan.mk (item :: later) fault other =
          (Scan.mk later fault other).prepend item := rfl
      have hkeeps := config.keeps_skipping true item
      cases hcomment : item.isComment with
      | true =>
          cases item with
          | invalid error => contradiction
          | token token =>
              rw [hcomment] at hkeeps
              rw [hsplit, tokenization_skipped _ _ _ hkeeps, ← ih,
                List.filter_cons_of_neg (by simp [hcomment])]
      | false =>
          rw [hcomment] at hkeeps
          rw [hsplit, List.filter_cons_of_pos (by simp [hcomment])]
          exact tokenization_prepend_congr (config.keeps_skipping false item) hkeeps rfl rfl ih
            tokens errors

end Config

theorem tokenize_eraseComments (config : Config) (source : List Char) :
    tokenize (config.skipping false) (eraseComments source) =
      tokenize (config.skipping true) source := by
  obtain ⟨hitems, hfault⟩ := scan_eraseComments source
  have herased : scan (eraseComments source) =
      ⟨(scan source).items.filter fun item => !item.isComment, (scan source).fault,
        (scan (eraseComments source)).cursor⟩ := by
    rw [← hitems, ← hfault]
  rw [tokenize_eq_tokenization, herased, Config.tokenization_skipping,
    tokenize_eq_tokenization]

/--
Comments are as good as blanks.  With spaces in their place the outcomes of a scan are those that
were there besides the comments, each at its old place, and a token stream is the stream that leaves
comments out, its failure and its log included.
-/
theorem comments_scanned_as_blanks (source : List Char) :
    (Cursor.start (eraseComments source)).outcomes =
        (Cursor.start source).outcomes.filter (fun outcome => !outcome.isComment) ∧
      ∀ (strict : Bool) (sourceFile : Option String),
        tokenize { skipComments := true, strict := strict, sourceFile := sourceFile } source =
          tokenize { skipComments := false, strict := strict, sourceFile := sourceFile }
            (eraseComments source) := by
  refine ⟨outcomes_eraseComments source, ?_⟩
  intro strict sourceFile
  exact (tokenize_eraseComments
    { skipComments := true, strict := strict, sourceFile := sourceFile } source).symm

end IRLexer
