import IRLexer.Lexeme
import IRLexer.Proofs.MaximalRun

/-!
# The local rules of the lexical grammar

A lexeme is a span of the source with a form.  The rules say, by the character that a span starts
with, what form it has and where it stops.  They read the source by offsets and name no procedure;
`localRule_iff` shows that the dispatch on the first characters and the extents of the forms are
one reading of them, so that a place of the source starts at most one span.
-/

namespace IRLexer

structure Span where
  start : Nat
  stop : Nat
  form : Form
  deriving DecidableEq, Repr

def unsignedStart (source : List Char) (start : Nat) : Nat :=
  if source[start]? = some '-' then start + 1 else start

/-- Where the run of a number begins: behind its sign and behind the word that a payload follows. -/
def numberRunStart (source : List Char) (start : Nat) : Nat :=
  if NumberLiteral.quietPayload <+: source.drop (unsignedStart source start) then
    unsignedStart source start + 4
  else if NumberLiteral.signalingPayload <+: source.drop (unsignedStart source start) then
    unsignedStart source start + 5
  else unsignedStart source start

inductive LocalRule (source : List Char) : Span → Prop
  | comment {start stop : Nat} (hfirst : source[start]? = some ';')
      (hrun : IsRun (· ≠ '\n') source start stop) :
      LocalRule source ⟨start, stop, .comment⟩
  | punctuation {start : Nat} {c : Char} {kind : Kind} (hfirst : source[start]? = some c)
      (hkind : (c, kind) ∈ punctuation) :
      LocalRule source ⟨start, start + 1, .punctuation kind⟩
  | arrow {start : Nat} (hfirst : source[start]? = some '-')
      (hsecond : source[start + 1]? = some '>') :
      LocalRule source ⟨start, start + 2, .arrow⟩
  | number {start stop : Nat} {c : Char} (hfirst : source[start]? = some c)
      (hnumber : c.isDigit = true ∨ c = '-' ∧ source[start + 1]? ≠ some '>')
      (hrun : IsRun isNumberChar source (numberRunStart source start) stop) :
      LocalRule source ⟨start, stop, .number⟩
  | word {start stop : Nat} {c : Char} (hfirst : source[start]? = some c)
      (hletter : isLetter c = true) (hrun : IsRun isWordChar source start stop) :
      LocalRule source ⟨start, stop, .word⟩
  | stray {start : Nat} {c : Char} (hfirst : source[start]? = some c)
      (hcomment : c ≠ ';') (hpunctuation : ∀ kind, (c, kind) ∉ punctuation) (hsign : c ≠ '-')
      (hdigit : c.isDigit = false) (hletter : isLetter c = false) (hblank : isBlank c = false) :
      LocalRule source ⟨start, start + 1, .stray c⟩

theorem mem_punctuation_of_punctuationKind? {c : Char} {kind : Kind}
    (h : punctuationKind? c = some kind) : (c, kind) ∈ punctuation := by
  obtain ⟨before, after, hlist, -⟩ := List.lookup_eq_some_iff.mp h
  rw [hlist]
  simp

theorem punctuationKind?_of_mem {c : Char} {kind : Kind} (h : (c, kind) ∈ punctuation) :
    punctuationKind? c = some kind := by
  simp only [punctuation, List.mem_cons, Prod.mk.injEq, List.not_mem_nil, or_false] at h
  rcases h with ⟨rfl, rfl⟩ | ⟨rfl, rfl⟩ | ⟨rfl, rfl⟩ | ⟨rfl, rfl⟩ | ⟨rfl, rfl⟩ | ⟨rfl, rfl⟩ |
    ⟨rfl, rfl⟩ | ⟨rfl, rfl⟩ <;> rfl

theorem apart_of_mem_punctuation {c : Char} {kind : Kind} (h : (c, kind) ∈ punctuation) :
    c ≠ ';' ∧ c ≠ '-' ∧ c.isDigit = false ∧ isLetter c = false ∧ isBlank c = false := by
  simp only [punctuation, List.mem_cons, Prod.mk.injEq, List.not_mem_nil, or_false] at h
  rcases h with ⟨rfl, -⟩ | ⟨rfl, -⟩ | ⟨rfl, -⟩ | ⟨rfl, -⟩ | ⟨rfl, -⟩ | ⟨rfl, -⟩ |
    ⟨rfl, -⟩ | ⟨rfl, -⟩ <;> decide

theorem punctuationKind?_eq_none_of_isDigit {c : Char} (h : c.isDigit = true) :
    punctuationKind? c = none := by
  cases hkind : punctuationKind? c with
  | none => rfl
  | some kind =>
      have hapart := apart_of_mem_punctuation (mem_punctuation_of_punctuationKind? hkind)
      rw [h] at hapart
      simp at hapart

theorem punctuationKind?_eq_none_of_isLetter {c : Char} (h : isLetter c = true) :
    punctuationKind? c = none := by
  cases hkind : punctuationKind? c with
  | none => rfl
  | some kind =>
      have hapart := apart_of_mem_punctuation (mem_punctuation_of_punctuationKind? hkind)
      rw [h] at hapart
      simp at hapart

theorem isLetter_eq_false_of_isDigit {c : Char} (h : c.isDigit = true) : isLetter c = false := by
  have hbounds : 48 ≤ c.toNat ∧ c.toNat ≤ 57 := by
    simp only [Char.isDigit, Bool.and_eq_true, decide_eq_true_eq] at h
    exact h
  unfold isLetter letterCodes
  rw [CodePointSet.contains_cons, if_pos (by omega)]

theorem isBlank_eq_false_of_isWordChar {c : Char} (h : isWordChar c = true) :
    isBlank c = false := by
  rw [Bool.eq_false_iff]
  intro hblank
  rw [isWordChar_eq_false_of_isBlank hblank] at h
  contradiction

theorem isWordChar_of_isLetter {c : Char} (h : isLetter c = true) : isWordChar c = true :=
  isWordChar_of_isWordStart (isWordStart_of_isLetter h)

theorem startsWith_iff {c : Char} :
    NumberLiteral.startsWith c = true ↔ c = '-' ∨ c.isDigit = true := by
  simp [NumberLiteral.startsWith]

namespace Form

theorem starting_semicolon (later : List Char) : starting ';' later = .comment := by
  simp [starting]

theorem starting_of_mem_punctuation {c : Char} {kind : Kind} (h : (c, kind) ∈ IRLexer.punctuation)
    (later : List Char) : starting c later = .punctuation kind := by
  have hapart := apart_of_mem_punctuation h
  simp [starting, hapart.1, punctuationKind?_of_mem h]

theorem starting_arrow {later : List Char} (h : later.head? = some '>') :
    starting '-' later = .arrow := by
  have hkind : punctuationKind? '-' = none := rfl
  simp [starting, hkind, h]

theorem starting_sign {later : List Char} (h : later.head? ≠ some '>') :
    starting '-' later = .number := by
  have hkind : punctuationKind? '-' = none := rfl
  simp [starting, hkind, h, startsWith_iff]

theorem starting_of_isDigit {c : Char} (h : c.isDigit = true) (later : List Char) :
    starting c later = .number := by
  have hcomment : c ≠ ';' := by
    rintro rfl
    contradiction
  have hsign : c ≠ '-' := by
    rintro rfl
    contradiction
  simp [starting, hcomment, hsign, punctuationKind?_eq_none_of_isDigit h, startsWith_iff, h]

theorem starting_of_isLetter {c : Char} (h : isLetter c = true) (later : List Char) :
    starting c later = .word := by
  have hcomment : c ≠ ';' := by
    rintro rfl
    exact absurd h (by decide)
  have hsign : c ≠ '-' := by
    rintro rfl
    exact absurd h (by decide)
  have hdigit : c.isDigit = false := by
    rw [Bool.eq_false_iff]
    intro hdigit
    rw [isLetter_eq_false_of_isDigit hdigit] at h
    contradiction
  simp [starting, hcomment, hsign, punctuationKind?_eq_none_of_isLetter h,
    NumberLiteral.startsWith, hdigit, h]

theorem starting_stray {c : Char} (hcomment : c ≠ ';')
    (hpunctuation : ∀ kind, (c, kind) ∉ IRLexer.punctuation) (hsign : c ≠ '-')
    (hdigit : c.isDigit = false) (hletter : isLetter c = false) (later : List Char) :
    starting c later = .stray c := by
  have hkind : punctuationKind? c = none := by
    cases hkind : punctuationKind? c with
    | none => rfl
    | some kind => exact absurd (mem_punctuation_of_punctuationKind? hkind) (hpunctuation kind)
  simp [starting, hcomment, hsign, hkind, NumberLiteral.startsWith, hdigit, hletter]

end Form

/-! ## The rules and the dispatch agree -/

theorem drop_eq_cons_of_getElem? {text : List Char} {start : Nat} {c : Char}
    (h : text[start]? = some c) : text.drop start = c :: text.drop (start + 1) := by
  obtain ⟨hlt, rfl⟩ := List.getElem?_eq_some_iff.mp h
  exact List.drop_eq_getElem_cons hlt

theorem getElem?_of_drop_eq_cons {text later : List Char} {start : Nat} {c : Char}
    (h : text.drop start = c :: later) :
    text[start]? = some c ∧ text[start + 1]? = later.head? := by
  constructor
  · rw [← List.head?_drop, h, List.head?_cons]
  · rw [← List.head?_drop, ← List.drop_drop, h, List.drop_one, List.tail_cons]

theorem unsignedStart_eq (source : List Char) (start : Nat) :
    unsignedStart source start = start + NumberLiteral.signLength (source.drop start) := by
  unfold unsignedStart
  rw [← List.head?_drop]
  cases source.drop start with
  | nil => rfl
  | cons first later =>
      by_cases hsign : first = '-'
      · simp [hsign, NumberLiteral.signLength]
      · simp [hsign, NumberLiteral.signLength]

theorem numberRunStart_eq (source : List Char) (start : Nat) :
    numberRunStart source start = start + NumberLiteral.headLength (source.drop start) := by
  have hunsigned : source.drop (unsignedStart source start) =
      NumberLiteral.unsigned (source.drop start) := by
    rw [unsignedStart_eq, ← List.drop_drop]
    rfl
  unfold numberRunStart NumberLiteral.headLength NumberLiteral.introLength
  rw [hunsigned, unsignedStart_eq]
  simp only [List.isPrefixOf_iff_prefix]
  by_cases hquiet :
      NumberLiteral.quietPayload <+: NumberLiteral.unsigned (source.drop start)
  · simp only [hquiet, ↓reduceIte, Nat.add_assoc]
    rfl
  · by_cases hsignaling :
        NumberLiteral.signalingPayload <+: NumberLiteral.unsigned (source.drop start)
    · simp only [hquiet, hsignaling, ↓reduceIte, Nat.add_assoc]
      rfl
    · simp only [hquiet, hsignaling, ↓reduceIte, Nat.add_zero]

theorem signLength_le (text : List Char) : NumberLiteral.signLength text ≤ text.length := by
  unfold NumberLiteral.signLength
  split <;> simp

theorem introLength_le (text : List Char) : NumberLiteral.introLength text ≤ text.length := by
  unfold NumberLiteral.introLength
  split
  · next hquiet => exact (List.isPrefixOf_iff_prefix.mp hquiet).length_le
  · split
    · next hsignaling => exact (List.isPrefixOf_iff_prefix.mp hsignaling).length_le
    · exact Nat.zero_le _

theorem payload_of_introLength {text : List Char} (h : NumberLiteral.introLength text ≠ 0) :
    (NumberLiteral.quietPayload <+: text ∧
      NumberLiteral.introLength text = NumberLiteral.quietPayload.length) ∨
    (NumberLiteral.signalingPayload <+: text ∧
      NumberLiteral.introLength text = NumberLiteral.signalingPayload.length) := by
  unfold NumberLiteral.introLength at h ⊢
  by_cases hquiet : NumberLiteral.quietPayload.isPrefixOf text = true
  · exact .inl ⟨List.isPrefixOf_iff_prefix.mp hquiet, if_pos hquiet⟩
  · rw [if_neg hquiet] at h ⊢
    by_cases hsignaling : NumberLiteral.signalingPayload.isPrefixOf text = true
    · exact .inr ⟨List.isPrefixOf_iff_prefix.mp hsignaling, if_pos hsignaling⟩
    · exact absurd (if_neg hsignaling) h

theorem headLength_le (text : List Char) : NumberLiteral.headLength text ≤ text.length := by
  have hsign := signLength_le text
  have hintro := introLength_le (NumberLiteral.unsigned text)
  rw [NumberLiteral.unsigned, List.length_drop] at hintro
  unfold NumberLiteral.headLength NumberLiteral.unsigned
  omega

theorem isRun_numberRunStart_iff {source : List Char} {start stop : Nat}
    (h : start ≤ source.length) :
    IsRun isNumberChar source (numberRunStart source start) stop ↔
      stop = start + NumberLiteral.extent (source.drop start) := by
  have hhead := headLength_le (source.drop start)
  rw [List.length_drop] at hhead
  rw [numberRunStart_eq, isRun_iff (by omega), NumberLiteral.extent, List.drop_drop, Nat.add_assoc]

def IsDispatched (source : List Char) (span : Span) : Prop :=
  ∃ first later, source.drop span.start = first :: later ∧ isBlank first = false ∧
    span.form = Form.starting first later ∧
    span.stop = span.start + span.form.extent (first :: later)

theorem LocalRule.isDispatched {source : List Char} {span : Span} (h : LocalRule source span) :
    IsDispatched source span := by
  have hinside {start : Nat} {c : Char} (hfirst : source[start]? = some c) :
      start ≤ source.length :=
    Nat.le_of_lt (List.getElem?_eq_some_iff.mp hfirst).1
  cases h with
  | @comment start stop hfirst hrun =>
      refine ⟨_, _, drop_eq_cons_of_getElem? hfirst, by decide,
        (Form.starting_semicolon _).symm, ?_⟩
      rw [← drop_eq_cons_of_getElem? hfirst]
      exact (isRun_iff (hinside hfirst)).mp hrun
  | punctuation hfirst hkind =>
      exact ⟨_, _, drop_eq_cons_of_getElem? hfirst, (apart_of_mem_punctuation hkind).2.2.2.2,
        (Form.starting_of_mem_punctuation hkind _).symm, rfl⟩
  | arrow hfirst hsecond =>
      refine ⟨_, _, drop_eq_cons_of_getElem? hfirst, by decide, ?_, rfl⟩
      exact (Form.starting_arrow (by rwa [List.head?_drop])).symm
  | @number start stop c hfirst hnumber hrun =>
      refine ⟨_, _, drop_eq_cons_of_getElem? hfirst, ?_, ?_, ?_⟩
      · rcases hnumber with hdigit | ⟨rfl, -⟩
        · exact isBlank_eq_false_of_isWordChar (isWordChar_of_isDigit hdigit)
        · decide
      · rcases hnumber with hdigit | ⟨rfl, hsecond⟩
        · exact (Form.starting_of_isDigit hdigit _).symm
        · exact (Form.starting_sign (by rwa [List.head?_drop])).symm
      · rw [← drop_eq_cons_of_getElem? hfirst]
        exact (isRun_numberRunStart_iff (hinside hfirst)).mp hrun
  | @word start stop c hfirst hletter hrun =>
      refine ⟨_, _, drop_eq_cons_of_getElem? hfirst,
        isBlank_eq_false_of_isWordChar (isWordChar_of_isLetter hletter),
        (Form.starting_of_isLetter hletter _).symm, ?_⟩
      rw [← drop_eq_cons_of_getElem? hfirst]
      exact (isRun_iff (hinside hfirst)).mp hrun
  | stray hfirst hcomment hpunctuation hsign hdigit hletter hblank =>
      exact ⟨_, _, drop_eq_cons_of_getElem? hfirst, hblank,
        (Form.starting_stray hcomment hpunctuation hsign hdigit hletter _).symm, rfl⟩

theorem localRule_starting {source later : List Char} {start : Nat} {first : Char}
    (hdrop : source.drop start = first :: later) (hblank : isBlank first = false) :
    LocalRule source ⟨start,
      start + (Form.starting first later).extent (first :: later),
      Form.starting first later⟩ := by
  obtain ⟨hfirst, hsecond⟩ := getElem?_of_drop_eq_cons hdrop
  have hinside : start ≤ source.length := Nat.le_of_lt (List.getElem?_eq_some_iff.mp hfirst).1
  -- The cases come in the order of the dispatch; what falls through all of them is a stray.
  by_cases hcomment : first = ';'
  · subst hcomment
    rw [Form.starting_semicolon, ← hdrop]
    exact .comment hfirst ((isRun_iff hinside).mpr rfl)
  cases hkind : punctuationKind? first with
  | some kind =>
      have hmem := mem_punctuation_of_punctuationKind? hkind
      rw [Form.starting_of_mem_punctuation hmem]
      exact .punctuation hfirst hmem
  | none =>
      by_cases hsign : first = '-'
      · subst hsign
        by_cases harrow : later.head? = some '>'
        · rw [Form.starting_arrow harrow]
          exact .arrow hfirst (hsecond.trans harrow)
        · rw [Form.starting_sign harrow, ← hdrop]
          refine .number hfirst (.inr ⟨rfl, ?_⟩) ((isRun_numberRunStart_iff hinside).mpr rfl)
          rwa [hsecond]
      by_cases hdigit : first.isDigit = true
      · rw [Form.starting_of_isDigit hdigit, ← hdrop]
        exact .number hfirst (.inl hdigit) ((isRun_numberRunStart_iff hinside).mpr rfl)
      by_cases hletter : isLetter first = true
      · rw [Form.starting_of_isLetter hletter, ← hdrop]
        exact .word hfirst hletter ((isRun_iff hinside).mpr rfl)
      · have hpunctuation : ∀ kind, (first, kind) ∉ punctuation := by
          intro kind hmem
          rw [punctuationKind?_of_mem hmem] at hkind
          contradiction
        rw [Bool.not_eq_true] at hdigit hletter
        rw [Form.starting_stray hcomment hpunctuation hsign hdigit hletter]
        exact .stray hfirst hcomment hpunctuation hsign hdigit hletter hblank

theorem localRule_iff {source : List Char} {span : Span} :
    LocalRule source span ↔ IsDispatched source span := by
  constructor
  · exact LocalRule.isDispatched
  · rintro ⟨first, later, hdrop, hblank, hform, hstop⟩
    obtain ⟨start, stop, form⟩ := span
    simp only at hdrop hform hstop
    rw [hstop, hform]
    exact localRule_starting hdrop hblank

namespace LocalRule

variable {source : List Char} {span : Span}

theorem eq_of_start_eq {other : Span} (h : LocalRule source span) (hother : LocalRule source other)
    (hstart : span.start = other.start) : span = other := by
  obtain ⟨first, later, hdrop, -, hform, hstop⟩ := h.isDispatched
  obtain ⟨first', later', hdrop', -, hform', hstop'⟩ := hother.isDispatched
  rw [hstart, hdrop'] at hdrop
  obtain ⟨rfl, rfl⟩ := List.cons.inj hdrop
  obtain ⟨start, stop, form⟩ := span
  obtain ⟨start', stop', form'⟩ := other
  simp_all

theorem first_not_blank (h : LocalRule source span) :
    ∃ c, source[span.start]? = some c ∧ isBlank c = false := by
  obtain ⟨first, later, hdrop, hblank, -⟩ := h.isDispatched
  exact ⟨first, (getElem?_of_drop_eq_cons hdrop).1, hblank⟩

theorem start_lt_stop (h : LocalRule source span) : span.start < span.stop := by
  obtain ⟨first, later, -, -, hform, hstop⟩ := h.isDispatched
  have hpos := Form.extent_starting_pos first later
  rw [hstop, hform]
  omega

theorem stop_le (h : LocalRule source span) : span.stop ≤ source.length := by
  cases h with
  | comment hfirst hrun => exact hrun.stop_le
  | number hfirst hnumber hrun => exact hrun.stop_le
  | word hfirst hletter hrun => exact hrun.stop_le
  | arrow hfirst hsecond => exact (List.getElem?_eq_some_iff.mp hsecond).1
  | punctuation hfirst hkind => exact (List.getElem?_eq_some_iff.mp hfirst).1
  | stray hfirst hcomment hpunctuation hsign hdigit hletter hblank =>
      exact (List.getElem?_eq_some_iff.mp hfirst).1

end LocalRule

/-! ## What a span holds -/

theorem isBlank_eq_false_of_isNumberChar {c : Char} (h : isNumberChar c = true) :
    isBlank c = false := by
  simp only [isNumberChar, Bool.or_eq_true, decide_eq_true_eq] at h
  rcases h with (rfl | rfl) | hword
  · decide
  · decide
  · exact isBlank_eq_false_of_isWordChar hword

theorem mem_of_prefix_drop {source pattern : List Char} {start place : Nat} {c : Char}
    (hbegin : pattern <+: source.drop start) (hstart : start ≤ place)
    (hstop : place < start + pattern.length) (hchar : source[place]? = some c) :
    c ∈ pattern := by
  obtain ⟨behind, hwhole⟩ := hbegin
  have hget : (source.drop start)[place - start]? = some c := by
    rw [List.getElem?_drop, Nat.add_sub_cancel' hstart, hchar]
  rw [← hwhole, List.getElem?_append_left (by omega)] at hget
  exact List.mem_of_getElem? hget

theorem isNumberChar_or_colon_of_lt_numberRunStart {source : List Char} {start place : Nat}
    {c : Char} (hstart : start ≤ place) (hplace : place < numberRunStart source start)
    (hchar : source[place]? = some c) : isNumberChar c = true ∨ c = ':' := by
  by_cases hsign : place < unsignedStart source start
  · left
    unfold unsignedStart at hsign
    split at hsign
    · next hminus =>
        obtain rfl : place = start := by omega
        rw [hminus] at hchar
        rw [← Option.some.inj hchar]
        decide
    · omega
  · have hmem : c ∈ NumberLiteral.quietPayload ∨ c ∈ NumberLiteral.signalingPayload := by
      unfold numberRunStart at hplace
      split at hplace
      · next hquiet => exact .inl (mem_of_prefix_drop hquiet (by omega) hplace hchar)
      · split at hplace
        · next hsignaling => exact .inr (mem_of_prefix_drop hsignaling (by omega) hplace hchar)
        · omega
    simp only [NumberLiteral.quietPayload, NumberLiteral.signalingPayload, List.mem_cons,
      List.not_mem_nil, or_false] at hmem
    rcases hmem with (rfl | rfl | rfl | rfl) | (rfl | rfl | rfl | rfl | rfl) <;> decide

namespace LocalRule

variable {source : List Char} {span : Span} {place : Nat} {c : Char}

theorem not_blank (h : LocalRule source span) (hform : span.form ≠ .comment)
    (hstart : span.start ≤ place) (hstop : place < span.stop)
    (hchar : source[place]? = some c) : isBlank c = false := by
  obtain ⟨first, hfirstChar, hfirstBlank⟩ := h.first_not_blank
  have hatStart (hplace : place = span.start) : isBlank c = false := by
    rw [hplace, hfirstChar] at hchar
    rwa [← Option.some.inj hchar]
  cases h with
  | comment hfirst hrun => contradiction
  | punctuation hfirst hkind => exact hatStart (by simp only at hstart hstop ⊢; omega)
  | stray hfirst hcomment hpunctuation hsign hdigit hletter hblank =>
      exact hatStart (by simp only at hstart hstop ⊢; omega)
  | @arrow start hfirst hsecond =>
      by_cases hplace : place = start
      · exact hatStart hplace
      · obtain rfl : place = start + 1 := by
          simp only at hstart hstop
          omega
        rw [hsecond] at hchar
        rw [← Option.some.inj hchar]
        decide
  | @number start stop first hfirst hnumber hrun =>
      by_cases hplace : place < numberRunStart source start
      · rcases isNumberChar_or_colon_of_lt_numberRunStart hstart hplace hchar with hnumber | rfl
        · exact isBlank_eq_false_of_isNumberChar hnumber
        · decide
      · exact isBlank_eq_false_of_isNumberChar
          (hrun.inside place c (Nat.le_of_not_lt hplace) hstop hchar)
  | word hfirst hletter hrun =>
      exact isBlank_eq_false_of_isWordChar (hrun.inside place c hstart hstop hchar)

theorem ne_newline (h : LocalRule source span) (hstart : span.start ≤ place)
    (hstop : place < span.stop) : source[place]? ≠ some '\n' := by
  intro hchar
  by_cases hform : span.form = .comment
  · cases h with
    | comment hfirst hrun =>
        have hinside := hrun.inside place '\n' hstart hstop hchar
        simp at hinside
    | punctuation | arrow | number | word | stray => contradiction
  · exact absurd (h.not_blank hform hstart hstop hchar) (by decide)

end LocalRule

end IRLexer
