import IRLexer.Proofs.LexicalRule
import IRLexer.Proofs.Outcome
import IRLexer.Proofs.Position

/-!
# Tilings

Spans tile a source when they are in order, nothing but blanks lies between them, and each obeys
the local rules.  A source has one tiling, and the outcomes of its scan are that tiling: nothing is
lost, doubled, or cut too long or too short.
-/

namespace IRLexer

/-- The spans tile what the source holds from the offset on. -/
structure Tiles (source : List Char) (offset : Nat) (spans : List Span) : Prop where
  inside : ∀ span ∈ spans,
    offset ≤ span.start ∧ span.start < span.stop ∧ span.stop ≤ source.length
  ordered : spans.Pairwise fun earlier later => earlier.stop ≤ later.start
  gaps : ∀ place c, offset ≤ place → source[place]? = some c →
    (∀ span ∈ spans, ¬ (span.start ≤ place ∧ place < span.stop)) → isBlank c = true
  rules : ∀ span ∈ spans, LocalRule source span

namespace Tiles

variable {source : List Char} {offset : Nat} {span : Span} {spans : List Span}

theorem nil (hblank : ∀ place c, offset ≤ place → source[place]? = some c → isBlank c = true) :
    Tiles source offset [] where
  inside := by simp
  ordered := List.Pairwise.nil
  gaps := by
    intro place c hplace hchar _
    exact hblank place c hplace hchar
  rules := by simp

theorem cons (hgap : IsRun isBlank source offset span.start) (hrule : LocalRule source span)
    (htail : Tiles source span.stop spans) : Tiles source offset (span :: spans) where
  inside := by
    intro other hother
    have hpos := hrule.start_lt_stop
    have hstart := hgap.start_le
    rcases List.mem_cons.mp hother with rfl | hlater
    · exact ⟨hstart, hpos, hrule.stop_le⟩
    · obtain ⟨hbegin, hinside⟩ := htail.inside other hlater
      exact ⟨by omega, hinside⟩
  ordered := by
    rw [List.pairwise_cons]
    refine ⟨?_, htail.ordered⟩
    intro other hother
    exact (htail.inside other hother).1
  gaps := by
    intro place c hplace hchar houtside
    by_cases hbefore : place < span.start
    · exact hgap.inside place c hplace hbefore hchar
    · have hafter : span.stop ≤ place := by
        have hhead := houtside span List.mem_cons_self
        omega
      refine htail.gaps place c hafter hchar ?_
      intro other hother
      exact houtside other (List.mem_cons_of_mem _ hother)
  rules := by
    intro other hother
    rcases List.mem_cons.mp hother with rfl | hlater
    · exact hrule
    · exact htail.rules other hlater

theorem tail (h : Tiles source offset (span :: spans)) : Tiles source span.stop spans where
  inside := by
    intro other hother
    have hbegin := List.rel_of_pairwise_cons h.ordered hother
    exact ⟨hbegin, (h.inside other (List.mem_cons_of_mem _ hother)).2⟩
  ordered := h.ordered.of_cons
  gaps := by
    intro place c hplace hchar houtside
    have hhead := (h.inside span List.mem_cons_self)
    refine h.gaps place c (by omega) hchar ?_
    intro other hother
    rcases List.mem_cons.mp hother with rfl | hlater
    · omega
    · exact houtside other hlater
  rules := by
    intro other hother
    exact h.rules other (List.mem_cons_of_mem _ hother)

theorem gap (h : Tiles source offset (span :: spans)) :
    IsRun isBlank source offset span.start where
  start_le := (h.inside span List.mem_cons_self).1
  stop_le := by
    have hhead := h.inside span List.mem_cons_self
    omega
  inside := by
    intro place c hplace hbefore hchar
    refine h.gaps place c hplace hchar ?_
    intro other hother
    rcases List.mem_cons.mp hother with rfl | hlater
    · omega
    · have hhead := h.inside span List.mem_cons_self
      have hbegin := List.rel_of_pairwise_cons h.ordered hlater
      omega
  boundary := by
    intro c hchar
    obtain ⟨first, hfirst, hblank⟩ := (h.rules span List.mem_cons_self).first_not_blank
    rw [hchar] at hfirst
    rwa [Option.some.inj hfirst]

theorem iff_eq_nil (hgap : IsRun isBlank source offset source.length) :
    Tiles source offset spans ↔ spans = [] := by
  constructor
  · intro htiles
    cases spans with
    | nil => rfl
    | cons span spans =>
        have hstart := htiles.gap.stop_eq hgap
        have hinside := htiles.inside span List.mem_cons_self
        omega
  · rintro rfl
    refine .nil ?_
    intro place c hplace hchar
    exact hgap.inside place c hplace (List.getElem?_eq_some_iff.mp hchar).1 hchar

theorem iff_eq_cons (hgap : IsRun isBlank source offset span.start)
    (hrule : LocalRule source span) :
    Tiles source offset spans ↔ ∃ later, spans = span :: later ∧ Tiles source span.stop later := by
  constructor
  · intro htiles
    cases spans with
    | nil =>
        obtain ⟨first, hfirst, hblank⟩ := hrule.first_not_blank
        have hcovered := htiles.gaps _ first hgap.start_le hfirst (by simp)
        rw [hblank] at hcovered
        contradiction
    | cons head later =>
        have hhead : head = span :=
          (htiles.rules head List.mem_cons_self).eq_of_start_eq hrule (htiles.gap.stop_eq hgap)
        subst hhead
        exact ⟨later, rfl, htiles.tail⟩
  · rintro ⟨later, rfl, htail⟩
    exact .cons hgap hrule htail

end Tiles

/-! ## The tiling of the lexemes -/

def Lexeme.span (lexeme : Lexeme) : Span :=
  ⟨lexeme.start, lexeme.start + lexeme.text.length, lexeme.form⟩

namespace Cursor

theorem isRun_skipBlanks {cursor : Cursor} {source : List Char} (h : cursor.IsIn source) :
    IsRun isBlank source cursor.offset cursor.skipBlanks.offset := by
  rw [isRun_iff h.standsIn.offset_le, ← h.rest_eq]
  simp only [skipBlanks, skipWhile, skip, take_length_takeWhile]

theorem rule_of_lexeme? {cursor after : Cursor} {lexeme : Lexeme} {source : List Char}
    (hin : cursor.IsIn source) (h : cursor.lexeme? = some (lexeme, after)) :
    LocalRule source lexeme.span := by
  obtain ⟨first, later, hrest, hcut⟩ := eq_cut_of_lexeme? h
  have hplace : cursor.skipBlanks.IsIn source := hin.reaches cursor.reaches_skipBlanks
  have hdrop : source.drop cursor.skipBlanks.offset = first :: later := by
    rw [← hplace.rest_eq, hrest]
  have hblank : isBlank first = false :=
    (isRun_skipBlanks hin).boundary first (getElem?_of_drop_eq_cons hdrop).1
  have hrule := localRule_starting hdrop hblank
  have hfits := hrule.stop_le
  have hlength : source.length - cursor.skipBlanks.offset = (first :: later).length := by
    rw [← hdrop, List.length_drop]
  have hstart := hplace.standsIn.offset_le
  obtain ⟨rfl, rfl⟩ := Prod.mk.inj hcut
  simp only [Lexeme.span, hrest, List.length_take]
  rwa [Nat.min_eq_left (by simp only at hfits; omega)]

theorem tiles_iff_eq_lexemes {cursor : Cursor} {source : List Char} (hin : cursor.IsIn source)
    (spans : List Span) :
    Tiles source cursor.offset spans ↔ spans = cursor.lexemes.map Lexeme.span := by
  fun_induction lexemes cursor generalizing spans with
  | case1 cursor hlexeme =>
      have hend : cursor.skipBlanks.offset = source.length := by
        have hplace := (hin.reaches cursor.reaches_skipBlanks).standsIn
        rw [← hplace.lookahead_eq_none_iff, lookahead, rest_skipBlanks_eq_nil hlexeme]
        rfl
      have hgap := isRun_skipBlanks hin
      rw [hend] at hgap
      exact Tiles.iff_eq_nil hgap
  | case2 cursor lexeme after hlexeme ih =>
      have hgap := isRun_skipBlanks hin
      have hrule := rule_of_lexeme? hin hlexeme
      obtain ⟨hstart, hstop⟩ := place_of_lexeme? hlexeme
      have hafter : after.offset = lexeme.span.stop := hstop
      rw [← hstart] at hgap
      rw [Tiles.iff_eq_cons hgap hrule, List.map_cons, ← hafter]
      constructor
      · rintro ⟨later, rfl, htail⟩
        rw [← (ih (hin.reaches (reaches_of_lexeme? hlexeme)) later).mp htail]
      · rintro rfl
        exact ⟨_, rfl, (ih (hin.reaches (reaches_of_lexeme? hlexeme)) _).mpr rfl⟩

end Cursor

def Kind.form : Kind → Form
  | .comment => .comment
  | .arrow => .arrow
  | .float | .integer => .number
  | .type | .value | .block | .stackSlot | .jumpTable | .funcRef | .sigRef | .identifier => .word
  | kind => .punctuation kind

def Item.span : Item → Span
  | .token found => ⟨found.start, found.stop, found.kind.form⟩
  | .invalid error => ⟨error.offset, error.offset + 1, .stray error.char⟩

def ScanOutcome.span : ScanOutcome → Span
  | .item found => found.span
  | .fault _ start stop => ⟨start, stop, .word⟩

theorem Kind.form_of_mem_punctuation {c : Char} {kind : Kind} (h : (c, kind) ∈ punctuation) :
    kind.form = .punctuation kind := by
  simp only [IRLexer.punctuation, List.mem_cons, Prod.mk.injEq, List.not_mem_nil, or_false] at h
  rcases h with ⟨-, rfl⟩ | ⟨-, rfl⟩ | ⟨-, rfl⟩ | ⟨-, rfl⟩ | ⟨-, rfl⟩ | ⟨-, rfl⟩ |
    ⟨-, rfl⟩ | ⟨-, rfl⟩ <;> rfl

theorem NumberLiteral.form_kind (literal : List Char) :
    (NumberLiteral.kind literal).form = .number := by
  unfold NumberLiteral.kind
  split <;> rfl

theorem Meaning.form_kind (meaning : Meaning) : meaning.kind.form = .word := by
  cases meaning with
  | entity space number => cases space <;> rfl
  | type shape => rfl

theorem Lexeme.span_outcome_of_word {lexeme : Lexeme} (h : lexeme.form = .word) :
    lexeme.outcome.span = lexeme.span := by
  obtain ⟨form, text, start, line⟩ := lexeme
  simp only at h
  subst h
  unfold Lexeme.outcome Lexeme.read Lexeme.readWord
  cases Meaning.ofWord? text with
  | error fault => rfl
  | ok meaning =>
      cases meaning with
      | none => rfl
      | some meaning =>
          simp only [Except.map, ScanOutcome.span, Item.span, Lexeme.token, Meaning.form_kind]
          rfl

theorem Cursor.span_outcome {cursor after : Cursor} {lexeme : Lexeme} {source : List Char}
    (hin : cursor.IsIn source) (h : cursor.lexeme? = some (lexeme, after)) :
    lexeme.outcome.span = lexeme.span := by
  have hrule := rule_of_lexeme? hin h
  generalize hspan : lexeme.span = span at hrule
  obtain ⟨form, text, start, line⟩ := lexeme
  cases hrule with
  | word hfirst hletter hrun =>
      rw [← hspan]
      exact Lexeme.span_outcome_of_word (congrArg Span.form hspan)
  | comment hfirst hrun =>
      obtain ⟨rfl, rfl, rfl⟩ := Span.mk.inj hspan
      rfl
  | arrow hfirst hsecond =>
      obtain ⟨rfl, hstop, rfl⟩ := Span.mk.inj hspan
      rw [← hstop]
      rfl
  | number hfirst hnumber hrun =>
      obtain ⟨rfl, rfl, rfl⟩ := Span.mk.inj hspan
      simp only [Lexeme.outcome, Lexeme.read, ScanOutcome.span, Item.span, Lexeme.token,
        NumberLiteral.form_kind]
      rfl
  | punctuation hfirst hkind =>
      obtain ⟨rfl, hstop, rfl⟩ := Span.mk.inj hspan
      simp only [Lexeme.outcome, Lexeme.read, ScanOutcome.span, Item.span, Lexeme.token,
        Kind.form_of_mem_punctuation hkind, ← hstop]
      rfl
  | stray hfirst hcomment hpunctuation hsign hdigit hletter hblank =>
      obtain ⟨rfl, hstop, rfl⟩ := Span.mk.inj hspan
      rfl

theorem Cursor.map_span_outcomes {cursor : Cursor} {source : List Char}
    (hin : cursor.IsIn source) :
    cursor.outcomes.map ScanOutcome.span = cursor.lexemes.map Lexeme.span := by
  rw [outcomes_eq_map_lexemes, List.map_map]
  fun_induction lexemes cursor with
  | case1 cursor hlexeme => rfl
  | case2 cursor lexeme after hlexeme ih =>
      rw [List.map_cons, List.map_cons, Function.comp_apply, span_outcome hin hlexeme,
        ih (hin.reaches (reaches_of_lexeme? hlexeme))]

/-- The outcomes of a scan are on one line each, end with the source, and are its only tiling. -/
theorem outcomes_tile_source (source : List Char) :
    (∀ outcome ∈ (Cursor.start source).outcomes, ∀ place, outcome.span.start ≤ place →
        place < outcome.span.stop → source[place]? ≠ some '\n') ∧
      (Cursor.start source).exhausted.offset = source.length ∧
      ∀ spans : List Span,
        Tiles source 0 spans ↔ spans = (Cursor.start source).outcomes.map ScanOutcome.span := by
  have hin := Cursor.start_isIn source
  have htiles (spans : List Span) :
      Tiles source 0 spans ↔ spans = (Cursor.start source).outcomes.map ScanOutcome.span := by
    rw [Cursor.map_span_outcomes hin]
    exact Cursor.tiles_iff_eq_lexemes hin spans
  refine ⟨?_, ?_, htiles⟩
  · intro outcome houtcome place hstart hstop
    have hrules := ((htiles _).mpr rfl).rules
    exact (hrules outcome.span (List.mem_map_of_mem houtcome)).ne_newline hstart hstop
  · have hplace := (hin.reaches (Cursor.reaches_exhausted _)).standsIn
    exact hplace.lookahead_eq_none_iff.mp (Cursor.lookahead_exhausted _)

theorem outcomes_tile_source_arrow :
    Tiles [' ', '-', '>'] 0 [⟨1, 3, .arrow⟩] ∧ [' ', '-', '>'][2]? ≠ some '\n' := by
  have hlexeme : (Cursor.start [' ', '-', '>']).lexeme? =
      some (⟨.arrow, ['-', '>'], 1, 1⟩, ⟨3, 1, []⟩) := rfl
  have hend : Cursor.lexeme? ⟨3, 1, []⟩ = none := rfl
  have houtcomes : (Cursor.start [' ', '-', '>']).outcomes =
      [.item (.token ⟨.arrow, none, ['-', '>'], 1, 1⟩)] := by
    rw [Cursor.outcomes_of_lexeme? hlexeme, Cursor.outcomes_of_lexeme?_eq_none hend]
    rfl
  obtain ⟨hlines, -, htiles⟩ := outcomes_tile_source [' ', '-', '>']
  rw [houtcomes] at hlines htiles
  exact ⟨(htiles _).mpr rfl, hlines _ List.mem_cons_self 2 (by decide) (by decide)⟩

end IRLexer
