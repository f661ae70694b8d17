import IRLexer.Proofs.Separation

/-!
# What a lexeme depends on

A lexeme is settled by its own characters and by the one behind it; nothing further away has a say.
It stays the same lexeme wherever these stay, and a lexeme of a fixed length stays whatever comes
behind it.  Changing the text around the lexemes of a source therefore leaves the scan of them as it
was.
-/

namespace IRLexer

/-- The sources have the same characters from `start` on, the one at `stop` included. -/
def AgreeOn (start stop : Nat) (first second : List Char) : Prop :=
  ∀ place, start ≤ place → place ≤ stop → first[place]? = second[place]?

namespace AgreeOn

variable {start stop : Nat} {first second : List Char}

theorem symm (h : AgreeOn start stop first second) : AgreeOn start stop second first := by
  intro place hstart hstop
  exact (h place hstart hstop).symm

theorem mono {inner outer : Nat} (h : AgreeOn start stop first second) (hstart : start ≤ inner)
    (hstop : outer ≤ stop) : AgreeOn inner outer first second := by
  intro place hplace houter
  exact h place (by omega) (by omega)

theorem le_length (h : AgreeOn start stop first second) (hlt : start < stop)
    (hle : stop ≤ first.length) : stop ≤ second.length := by
  have hchar : second[stop - 1]? = some first[stop - 1] := by
    rw [← h (stop - 1) (by omega) (by omega), List.getElem?_eq_getElem]
  have hinside := (List.getElem?_eq_some_iff.mp hchar).1
  omega

theorem isRun {test : Char → Bool} (h : AgreeOn start stop first second)
    (hle : stop ≤ second.length) (hrun : IsRun test first start stop) :
    IsRun test second start stop where
  start_le := hrun.start_le
  stop_le := hle
  inside := by
    intro place c hstart hstop hchar
    rw [← h place hstart (by omega)] at hchar
    exact hrun.inside place c hstart hstop hchar
  boundary := by
    intro c hchar
    rw [← h stop hrun.start_le (by omega)] at hchar
    exact hrun.boundary c hchar

theorem prefix_drop {pattern : List Char} (h : AgreeOn start stop first second)
    (hstart : start ≤ stop) (hpattern : ∀ c ∈ pattern.dropLast, isNumberChar c = true)
    (hend : ∀ c, first[stop]? = some c → isNumberChar c = false)
    (hbegin : pattern <+: first.drop start) : pattern <+: second.drop start := by
  rw [List.prefix_iff_getElem?] at hbegin ⊢
  have hinside : start + pattern.length ≤ stop + 1 := by
    apply Nat.le_of_not_lt
    intro hpast
    have hchar := hbegin (stop - start) (by omega)
    rw [List.getElem?_drop, Nat.add_sub_cancel' hstart] at hchar
    have hmem : pattern[stop - start] ∈ pattern.dropLast := by
      apply List.mem_of_getElem? (i := stop - start)
      rw [List.getElem?_dropLast, if_pos (by omega), List.getElem?_eq_getElem]
    have houtside := hend _ hchar
    rw [hpattern _ hmem] at houtside
    contradiction
  intro index hindex
  rw [List.getElem?_drop, ← h _ (by omega) (by omega), ← List.getElem?_drop]
  exact hbegin index hindex

end AgreeOn

theorem unsignedStart_le (source : List Char) (start : Nat) :
    start ≤ unsignedStart source start := by
  unfold unsignedStart
  split <;> omega

theorem unsignedStart_le_numberRunStart (source : List Char) (start : Nat) :
    unsignedStart source start ≤ numberRunStart source start := by
  unfold numberRunStart
  split <;> try split
  all_goals omega

theorem AgreeOn.numberRunStart_eq {start stop : Nat} {first second : List Char}
    (h : AgreeOn start stop first second) (hrun : IsRun isNumberChar first
      (numberRunStart first start) stop) :
    numberRunStart second start = numberRunStart first start := by
  have hle : unsignedStart first start ≤ stop :=
    Nat.le_trans (unsignedStart_le_numberRunStart first start) hrun.start_le
  have hstart := unsignedStart_le first start
  have hsign : unsignedStart second start = unsignedStart first start := by
    simp only [unsignedStart, h start (Nat.le_refl _) (by omega)]
  have hbehind : AgreeOn (unsignedStart first start) stop first second :=
    h.mono hstart (Nat.le_refl _)
  have hend : ∀ c, second[stop]? = some c → isNumberChar c = false := by
    intro c hchar
    rw [← h stop (by omega) (Nat.le_refl _)] at hchar
    exact hrun.boundary c hchar
  have hpattern (pattern : List Char) (hinside : pattern.dropLast.all isNumberChar = true) :
      pattern <+: second.drop (unsignedStart first start) ↔
        pattern <+: first.drop (unsignedStart first start) := by
    rw [List.all_eq_true] at hinside
    exact ⟨hbehind.symm.prefix_drop hle hinside hend,
      hbehind.prefix_drop hle hinside hrun.boundary⟩
  have hquiet := hpattern NumberLiteral.quietPayload (by decide)
  have hsignaling := hpattern NumberLiteral.signalingPayload (by decide)
  simp only [numberRunStart, hsign, hquiet, hsignaling]

namespace Form

def isFixed : Form → Bool
  | punctuation _ | arrow | stray _ => true
  | comment | number | word => false

end Form

namespace LocalRule

variable {first second : List Char} {span : Span}

theorem of_agreeOn (h : LocalRule first span) (hagree : AgreeOn span.start span.stop first second) :
    LocalRule second span := by
  have hlt := h.start_lt_stop
  have hle := hagree.le_length hlt h.stop_le
  have hstart := hagree span.start (Nat.le_refl _) (by omega)
  have hnext := hagree (span.start + 1) (by omega) (by omega)
  cases h with
  | comment hfirst hrun => exact .comment (hstart ▸ hfirst) (hagree.isRun hle hrun)
  | punctuation hfirst hkind => exact .punctuation (hstart ▸ hfirst) hkind
  | arrow hfirst hsecond => exact .arrow (hstart ▸ hfirst) (hnext ▸ hsecond)
  | @number start stop c hfirst hnumber hrun =>
      refine .number (hstart ▸ hfirst) (hnext ▸ hnumber) ?_
      rw [hagree.numberRunStart_eq hrun]
      have hbegin := Nat.le_trans (unsignedStart_le first start)
        (unsignedStart_le_numberRunStart first start)
      exact (hagree.mono hbegin (Nat.le_refl _)).isRun hle hrun
  | word hfirst hletter hrun => exact .word (hstart ▸ hfirst) hletter (hagree.isRun hle hrun)
  | stray hfirst hcomment hpunctuation hsign hdigit hletter hblank =>
      exact .stray (hstart ▸ hfirst) hcomment hpunctuation hsign hdigit hletter hblank

theorem of_agreeOn_of_isFixed (h : LocalRule first span) (hfixed : span.form.isFixed = true)
    (hagree : AgreeOn span.start (span.stop - 1) first second) : LocalRule second span := by
  have hstart := hagree span.start (Nat.le_refl _) (Nat.le_sub_one_of_lt h.start_lt_stop)
  cases h with
  | comment | number | word => contradiction
  | punctuation hfirst hkind => exact .punctuation (hstart ▸ hfirst) hkind
  | @arrow start hfirst hsecond =>
      have hnext := hagree (start + 1) (by simp) (by simp)
      exact .arrow (hstart ▸ hfirst) (hnext ▸ hsecond)
  | stray hfirst hcomment hpunctuation hsign hdigit hletter hblank =>
      exact .stray (hstart ▸ hfirst) hcomment hpunctuation hsign hdigit hletter hblank

theorem word_iff {source : List Char} {start stop : Nat} :
    LocalRule source ⟨start, stop, .word⟩ ↔
      (∃ c, source[start]? = some c ∧ isLetter c = true) ∧ IsRun isWordChar source start stop := by
  constructor
  · rintro (_ | _ | _ | _ | ⟨hfirst, hletter, hrun⟩ | _)
    exact ⟨⟨_, hfirst, hletter⟩, hrun⟩
  · rintro ⟨⟨c, hfirst, hletter⟩, hrun⟩
    exact .word hfirst hletter hrun

theorem isFixed_of_isLetter (h : LocalRule first span) {c : Char}
    (hchar : first[span.stop]? = some c) (hletter : isLetter c = true) :
    span.form.isFixed = true := by
  have hword := isWordChar_of_isLetter hletter
  cases h with
  | punctuation | arrow | stray => rfl
  | comment hfirst hrun =>
      have hnewline : c = '\n' := by simpa using hrun.boundary c hchar
      rw [hnewline] at hletter
      exact absurd hletter (by decide)
  | number hfirst hnumber hrun =>
      have hboundary := hrun.boundary c hchar
      rw [isNumberChar_of_isWordChar hword] at hboundary
      contradiction
  | word hfirst hfirstLetter hrun =>
      have hboundary := hrun.boundary c hchar
      rw [hword] at hboundary
      contradiction

end LocalRule

/-! ## Lexemes in front of a text -/

namespace Form

/-- In front of `later` the text is one whole lexeme of the form. -/
def IsLexemeBefore (form : Form) (text later : List Char) : Prop :=
  LocalRule (text ++ later) ⟨0, text.length, form⟩

theorem isLexemeBefore_iff {form : Form} {text later : List Char} :
    form.IsLexemeBefore text later ↔ ∃ first rest, text ++ later = first :: rest ∧
      isBlank first = false ∧ starting first rest = form ∧
      form.extent (first :: rest) = text.length := by
  simp only [IsLexemeBefore, localRule_iff, IsDispatched, List.drop_zero, Nat.zero_add, eq_comm]

theorem IsLexeme.before {form : Form} {text later : List Char} (h : form.IsLexeme text)
    (hends : form.EndsBefore later) : form.IsLexemeBefore text later :=
  isLexemeBefore_iff.mpr (h later hends)

theorem getElem?_length_append (text later : List Char) :
    (text ++ later)[text.length]? = later.head? := by
  rw [List.getElem?_append_right (Nat.le_refl _), Nat.sub_self, List.head?_eq_getElem?]

namespace IsLexemeBefore

variable {form : Form} {text later other : List Char}

theorem length_pos (h : form.IsLexemeBefore text later) : 0 < text.length :=
  h.start_lt_stop

theorem of_head?_eq (h : form.IsLexemeBefore text later) (hhead : other.head? = later.head?) :
    form.IsLexemeBefore text other := by
  apply h.of_agreeOn
  intro place _ hplace
  rcases Nat.lt_or_eq_of_le hplace with hinside | rfl
  · simp only at hinside
    rw [List.getElem?_append_left hinside, List.getElem?_append_left hinside]
  · rw [getElem?_length_append, getElem?_length_append, hhead]

theorem of_isFixed (h : form.IsLexemeBefore text later) (hfixed : form.isFixed = true) :
    form.IsLexemeBefore text other := by
  apply h.of_agreeOn_of_isFixed hfixed
  intro place _ hplace
  have hpos := h.length_pos
  simp only at hplace
  rw [List.getElem?_append_left (by omega), List.getElem?_append_left (by omega)]

theorem isFixed_of_isLetter (h : form.IsLexemeBefore text later) {c : Char}
    (hhead : later.head? = some c) (hletter : isLetter c = true) : form.isFixed = true := by
  have hchar : (text ++ later)[text.length]? = some c := by
    rw [getElem?_length_append, hhead]
  exact LocalRule.isFixed_of_isLetter h hchar hletter

theorem count_newline (h : form.IsLexemeBefore text later) : text.count '\n' = 0 := by
  rw [List.count_eq_zero]
  intro hmem
  obtain ⟨place, hlt, hchar⟩ := List.getElem_of_mem hmem
  apply h.ne_newline (Nat.zero_le place) hlt
  rw [List.getElem?_append_left hlt, List.getElem?_eq_getElem hlt, hchar]

end IsLexemeBefore

end Form

namespace Cursor

def blanks (cursor : Cursor) : List Char :=
  cursor.rest.takeWhile isBlank

def withRest (cursor : Cursor) (rest : List Char) : Cursor :=
  { cursor with rest := rest }

@[simp] theorem withRest_rest (cursor : Cursor) : cursor.withRest cursor.rest = cursor :=
  rfl

theorem isBlank_of_mem_blanks {cursor : Cursor} {c : Char} (h : c ∈ cursor.blanks) :
    isBlank c = true :=
  List.mem_takeWhile_imp h

theorem skip_blanks (cursor : Cursor) : cursor.skip cursor.blanks.length = cursor.skipBlanks :=
  rfl

theorem offset_skipBlanks (cursor : Cursor) :
    cursor.skipBlanks.offset = cursor.offset + cursor.blanks.length := by
  rw [← skip_blanks]
  simp only [skip, blanks, take_length_takeWhile]

theorem rest_skipBlanks (cursor : Cursor) :
    cursor.skipBlanks.rest = cursor.rest.dropWhile isBlank :=
  drop_length_takeWhile isBlank cursor.rest

theorem blanks_append_rest_skipBlanks (cursor : Cursor) :
    cursor.blanks ++ cursor.skipBlanks.rest = cursor.rest := by
  rw [rest_skipBlanks]
  exact List.takeWhile_append_dropWhile

theorem not_blank_of_rest_skipBlanks {cursor : Cursor} {first : Char} {later : List Char}
    (h : cursor.skipBlanks.rest = first :: later) : isBlank first = false := by
  have hhead := List.head?_dropWhile_not isBlank cursor.rest
  rwa [← rest_skipBlanks, h] at hhead

theorem skip_withRest_append (cursor : Cursor) (text later : List Char) :
    (cursor.withRest (text ++ later)).skip text.length =
      ⟨cursor.offset + text.length, cursor.line + text.count '\n', later⟩ := by
  simp [withRest, skip]

theorem lexeme?_withRest_append (cursor : Cursor) {form : Form} {gap text later : List Char}
    (hgap : ∀ c ∈ gap, isBlank c = true) (h : form.IsLexemeBefore text later) :
    (cursor.withRest (gap ++ (text ++ later))).lexeme? =
      some (⟨form, text, cursor.offset + gap.length, cursor.line + gap.count '\n'⟩,
        ⟨cursor.offset + gap.length + text.length, cursor.line + gap.count '\n', later⟩) := by
  obtain ⟨first, rest, hwhole, hblank, hstarting, hextent⟩ := Form.isLexemeBefore_iff.mp h
  have hblanks : (cursor.withRest (gap ++ (text ++ later))).blanks = gap := by
    apply takeWhile_append_of_head hgap
    intro c hc
    rw [hwhole, List.head?_cons, Option.some.injEq] at hc
    rwa [← hc]
  have hskip : (cursor.withRest (gap ++ (text ++ later))).skipBlanks =
      ⟨cursor.offset + gap.length, cursor.line + gap.count '\n', first :: rest⟩ := by
    rw [← skip_blanks, hblanks, skip_withRest_append, hwhole]
  rw [lexeme?, hskip]
  simp only [hstarting, hextent, cut, skip]
  simp [← hwhole, h.count_newline]

theorem rest_eq_of_lexeme? {cursor after : Cursor} {lexeme : Lexeme}
    (h : cursor.lexeme? = some (lexeme, after)) :
    cursor.rest = cursor.blanks ++ (lexeme.text ++ after.rest) := by
  obtain ⟨first, later, -, hcut⟩ := eq_cut_of_lexeme? h
  obtain ⟨rfl, rfl⟩ := Prod.mk.inj hcut
  rw [rest_skip, List.take_append_drop, blanks_append_rest_skipBlanks]

theorem isLexemeBefore_of_lexeme? {cursor after : Cursor} {lexeme : Lexeme}
    (h : cursor.lexeme? = some (lexeme, after)) :
    lexeme.form.IsLexemeBefore lexeme.text after.rest := by
  obtain ⟨first, later, hrest, hcut⟩ := eq_cut_of_lexeme? h
  obtain ⟨rfl, rfl⟩ := Prod.mk.inj hcut
  have hrule : LocalRule (first :: later)
      ⟨0, 0 + (Form.starting first later).extent (first :: later), Form.starting first later⟩ :=
    localRule_starting rfl (not_blank_of_rest_skipBlanks hrest)
  have hfits := hrule.stop_le
  simp only [Nat.zero_add] at hrule hfits
  rw [Form.IsLexemeBefore, rest_skip, List.take_append_drop, hrest, List.length_take,
    Nat.min_eq_left hfits]
  exact hrule

theorem rest_skipBlanks_of_lexeme? {cursor after : Cursor} {lexeme : Lexeme}
    (h : cursor.lexeme? = some (lexeme, after)) :
    cursor.skipBlanks.rest = lexeme.text ++ after.rest :=
  List.append_cancel_left (cursor.blanks_append_rest_skipBlanks.trans (rest_eq_of_lexeme? h))

theorem line_of_lexeme? {cursor after : Cursor} {lexeme : Lexeme}
    (h : cursor.lexeme? = some (lexeme, after)) :
    lexeme.line = cursor.skipBlanks.line ∧ after.line = lexeme.line := by
  have hlines := (isLexemeBefore_of_lexeme? h).count_newline
  obtain ⟨first, later, -, hcut⟩ := eq_cut_of_lexeme? h
  obtain ⟨rfl, rfl⟩ := Prod.mk.inj hcut
  exact ⟨rfl, congrArg (cursor.skipBlanks.line + ·) hlines⟩

theorem lexeme?_withRest {cursor after : Cursor} {lexeme : Lexeme} {form : Form}
    {text later : List Char} (h : cursor.lexeme? = some (lexeme, after))
    (hlexeme : form.IsLexemeBefore text later) (hlength : text.length = lexeme.text.length) :
    (cursor.withRest (cursor.blanks ++ (text ++ later))).lexeme? =
      some (⟨form, text, lexeme.start, lexeme.line⟩, after.withRest later) := by
  have hblanks : ∀ c ∈ cursor.blanks, isBlank c = true := fun c hc => isBlank_of_mem_blanks hc
  have hfound := lexeme?_withRest_append cursor hblanks (isLexemeBefore_of_lexeme? h)
  rw [← rest_eq_of_lexeme? h, withRest_rest, h, Option.some.injEq, Prod.mk.injEq] at hfound
  obtain ⟨hlexemeEq, hafter⟩ := hfound
  rw [lexeme?_withRest_append cursor hblanks hlexeme, hlexemeEq, hafter, hlength]
  rfl

end Cursor

end IRLexer
