import IRLexer.Proofs.LaneMultiplication
import IRLexer.Proofs.Numeral
import IRLexer.Proofs.Tiling
import Mathlib.Algebra.Group.Int.Defs
import Mathlib.Algebra.Group.Nat.Defs
import Mathlib.Data.List.TakeWhile

/-!
# Words and their meanings

Entities in range and types with an admitted number of lanes are printable.  Reading a word undoes
printing: the words with a meaning are the printed forms, each read as what was printed, and besides
them the names of scalars that carry the lane count one.
-/

namespace IRLexer

/-- An entity within the limit of its space, or a scalar with a power of two up to 256 as lanes. -/
inductive Meaning.IsPrintable : Meaning → Prop
  | entity (space : EntitySpace) (number : Nat) (hnumber : number ≤ space.maxNumber) :
      IsPrintable (.entity space number)
  | type (lane : ValueType) (exponent : Nat) (hlane : lane ∈ ValueType.scalars)
      (hexponent : exponent ≤ 8) :
      IsPrintable (.type ⟨lane.laneKind, lane.laneBits, 2 ^ exponent⟩)

def IsWordText (text : List Char) : Prop :=
  text.head?.any isLetter = true ∧ text.all isWordChar = true

namespace EntitySpace

theorem ofSigil?_eq_some_iff {name : List Char} {space : EntitySpace} :
    ofSigil? name = some space ↔ space.sigil = name := by
  constructor
  · intro h
    simpa using List.find?_some h
  · rintro rfl
    cases space <;> rfl

theorem endsInNoDigit_sigil (space : EntitySpace) :
    NumberedName.EndsInNoDigit space.sigil := by
  intro c hlast
  cases space <;>
    · obtain rfl := Option.some.inj hlast
      rfl

theorem isWordText_sigil (space : EntitySpace) : IsWordText space.sigil := by
  unfold IsWordText
  cases space <;> decide

theorem maxNumber_le_maxIndex (space : EntitySpace) : space.maxNumber ≤ maxIndex := by
  cases space <;> decide

end EntitySpace

namespace Meaning

theorem ofEntityName?_eq_some_iff {stem : List Char} {number : Nat} {meaning : Meaning} :
    ofEntityName? stem number = some meaning ↔
      ∃ space : EntitySpace, space.sigil = stem ∧ number ≤ space.maxNumber ∧
        meaning = .entity space number := by
  unfold ofEntityName?
  rw [Option.bind_eq_some_iff]
  constructor
  · rintro ⟨space, hspace, hmeaning⟩
    split at hmeaning
    · next hle =>
        exact ⟨space, EntitySpace.ofSigil?_eq_some_iff.mp hspace, hle,
          (Option.some.inj hmeaning).symm⟩
    · contradiction
  · rintro ⟨space, hsigil, hle, rfl⟩
    exact ⟨space, EntitySpace.ofSigil?_eq_some_iff.mpr hsigil, if_pos hle⟩

theorem ofWord?_entity {space : EntitySpace} {number : Nat} (h : number ≤ space.maxNumber) :
    ofWord? (spelling (.entity space number)) = .ok (some (.entity space number)) := by
  have hsplit : NumberedName.split? (spelling (.entity space number)) =
      .ok (some (space.sigil, number)) :=
    NumberedName.split?_eq_some_iff.mpr
      ⟨Nat.le_trans h space.maxNumber_le_maxIndex, rfl, space.endsInNoDigit_sigil⟩
  have hentity : ofEntityName? space.sigil number = some (.entity space number) :=
    ofEntityName?_eq_some_iff.mpr ⟨space, rfl, h, rfl⟩
  simp [ofWord?, hsplit, Except.map, hentity]

end Meaning

namespace ValueType

theorem scalar?_eq_some_iff {name : List Char} {lane : ValueType} :
    scalar? name = some lane ↔ lane ∈ scalars ∧ lane.spelling = name := by
  constructor
  · intro h
    exact ⟨List.mem_of_find?_eq_some h, by simpa using List.find?_some h⟩
  · rintro ⟨hlane, rfl⟩
    revert lane
    decide

theorem lanes_of_mem_scalars {lane : ValueType} (h : lane ∈ scalars) : lane.lanes = 1 := by
  revert lane
  decide

theorem isWordText_of_mem_scalars {lane : ValueType} (h : lane ∈ scalars) :
    IsWordText lane.spelling := by
  unfold IsWordText
  revert lane
  decide

theorem ofSigil?_of_mem_scalars {lane : ValueType} (h : lane ∈ scalars) :
    EntitySpace.ofSigil? (lane.spelling ++ ['x']) = none := by
  revert lane
  decide

theorem times?_natCast_eq_some_iff {lane shape : ValueType} (hlane : lane.lanes = 1)
    {number : Nat} :
    lane.times? number = some shape ↔
      ∃ exponent ≤ 8, number = 2 ^ exponent ∧
        shape = ⟨lane.laneKind, lane.laneBits, 2 ^ exponent⟩ := by
  have hcast (exponent : Nat) : ((2 ^ exponent : Nat) : Int) = 2 ^ exponent := by simp
  rw [times?_eq_some_iff, hlane, Int.one_mul, ← and_assoc, isPowerOfTwo_and_le_maxLanes_iff]
  constructor
  · rintro ⟨⟨exponent, hexponent, hnumber⟩, rfl⟩
    refine ⟨exponent, hexponent, ?_, by rw [hnumber]⟩
    rw [← hcast] at hnumber
    exact Int.ofNat_inj.mp hnumber
  · rintro ⟨exponent, hexponent, rfl, rfl⟩
    exact ⟨⟨exponent, hexponent, hcast exponent⟩, by rw [hcast]⟩

theorem spelling_vector {lane : ValueType} (hlane : lane.lanes = 1) {exponent : Nat}
    (hpos : 0 < exponent) :
    spelling ⟨lane.laneKind, lane.laneBits, 2 ^ exponent⟩ =
      lane.spelling ++ ['x'] ++ Decimal.natural (2 ^ exponent) := by
  have hcast : (2 ^ exponent : Int) = ((2 ^ exponent : Nat) : Int) := by simp
  have hlarge : 2 ^ 1 ≤ 2 ^ exponent := Nat.pow_le_pow_right (by decide) hpos
  have hvector : (1 : Int) < ((2 ^ exponent : Nat) : Int) := by omega
  simp only [spelling, isVector, hlane, hcast, hvector, decide_true, if_true,
    Decimal.integer_natCast]
  simp

theorem eq_of_lanes_one {lane : ValueType} (hlane : lane.lanes = 1) :
    (⟨lane.laneKind, lane.laneBits, 2 ^ 0⟩ : ValueType) = lane := by
  obtain ⟨kind, bits, lanes⟩ := lane
  simp only at hlane
  subst hlane
  rfl

end ValueType

namespace Meaning

theorem ofTypeName?_vector {name stem : List Char} {number : Nat} {meaning : Meaning} :
    ofTypeName? name (stem ++ ['x']) number = some meaning ↔
      ∃ lane ∈ ValueType.scalars, lane.spelling = stem ∧ ∃ exponent ≤ 8, number = 2 ^ exponent ∧
        meaning = .type ⟨lane.laneKind, lane.laneBits, 2 ^ exponent⟩ := by
  rw [ofTypeName?, if_pos List.getLast?_concat, List.dropLast_concat]
  constructor
  · intro h
    split at h
    · rw [Option.map_eq_some_iff] at h
      obtain ⟨shape, hshape, rfl⟩ := h
      rw [Option.bind_eq_some_iff] at hshape
      obtain ⟨lane, hlane, htimes⟩ := hshape
      obtain ⟨hmem, hspelling⟩ := ValueType.scalar?_eq_some_iff.mp hlane
      have hone := ValueType.lanes_of_mem_scalars hmem
      obtain ⟨exponent, hexponent, hnumber, rfl⟩ :=
        (ValueType.times?_natCast_eq_some_iff hone).mp htimes
      exact ⟨lane, hmem, hspelling, exponent, hexponent, hnumber, rfl⟩
    · contradiction
  · rintro ⟨lane, hmem, hspelling, exponent, hexponent, rfl, rfl⟩
    have hcount : 2 ^ exponent ≤ maxLaneCount :=
      Nat.le_trans (Nat.pow_le_pow_right (by decide) hexponent) (by decide : 2 ^ 8 ≤ maxLaneCount)
    have hone := ValueType.lanes_of_mem_scalars hmem
    have htimes := (ValueType.times?_natCast_eq_some_iff hone).mpr ⟨exponent, hexponent, rfl, rfl⟩
    rw [if_pos hcount, ValueType.scalar?_eq_some_iff.mpr ⟨hmem, hspelling⟩, Option.bind_some,
      htimes, Option.map_some]

theorem ofTypeName?_scalar {name stem : List Char} {number : Nat} {meaning : Meaning}
    (hstem : stem.getLast? ≠ some 'x') :
    ofTypeName? name stem number = some meaning ↔
      ∃ lane ∈ ValueType.scalars, lane.spelling = name ∧ meaning = .type lane := by
  rw [ofTypeName?, if_neg hstem, Option.map_eq_some_iff]
  constructor
  · rintro ⟨lane, hlane, rfl⟩
    obtain ⟨hmem, hspelling⟩ := ValueType.scalar?_eq_some_iff.mp hlane
    exact ⟨lane, hmem, hspelling, rfl⟩
  · rintro ⟨lane, hmem, hspelling, rfl⟩
    exact ⟨lane, ValueType.scalar?_eq_some_iff.mpr ⟨hmem, hspelling⟩, rfl⟩

/-! ## Words -/

theorem ofWord?_scalar {lane : ValueType} (h : lane ∈ ValueType.scalars) :
    ofWord? lane.spelling = .ok (some (.type lane)) := by
  simp only [ValueType.scalars, List.mem_cons, List.not_mem_nil, or_false] at h
  rcases h with rfl | rfl | rfl | rfl | rfl | rfl | rfl | rfl | rfl | rfl | rfl <;> rfl

theorem ofWord?_vector {lane : ValueType} (hlane : lane ∈ ValueType.scalars) {exponent : Nat}
    (hexponent : exponent ≤ 8) :
    ofWord? (lane.spelling ++ ['x'] ++ Decimal.natural (2 ^ exponent)) =
      .ok (some (.type ⟨lane.laneKind, lane.laneBits, 2 ^ exponent⟩)) := by
  have hrange : 2 ^ exponent ≤ maxIndex :=
    Nat.le_trans (Nat.pow_le_pow_right (by decide) hexponent) (by decide : 2 ^ 8 ≤ maxIndex)
  have hstem : NumberedName.EndsInNoDigit (lane.spelling ++ ['x']) := by
    intro c hlast
    rw [List.getLast?_concat] at hlast
    obtain rfl := Option.some.inj hlast
    rfl
  have hsplit := NumberedName.split?_eq_some_iff.mpr ⟨hrange, rfl, hstem⟩
  have hentity : ofEntityName? (lane.spelling ++ ['x']) (2 ^ exponent) = none := by
    rw [ofEntityName?, ValueType.ofSigil?_of_mem_scalars hlane, Option.bind_none]
  have htype : ofTypeName? (lane.spelling ++ ['x'] ++ Decimal.natural (2 ^ exponent))
      (lane.spelling ++ ['x']) (2 ^ exponent) =
        some (.type ⟨lane.laneKind, lane.laneBits, 2 ^ exponent⟩) :=
    ofTypeName?_vector.mpr ⟨lane, hlane, rfl, exponent, hexponent, rfl, rfl⟩
  simp only [ofWord?, hsplit, Except.map, Option.bind_some, hentity, htype, Option.none_or]

/-- The name of a meaning is what is printed for it; that of a scalar may also end in `x1`. -/
def HasName (meaning : Meaning) (name : List Char) : Prop :=
  (meaning.IsPrintable ∧ name = meaning.spelling) ∨
    ∃ lane ∈ ValueType.scalars, meaning = .type lane ∧ name = lane.spelling ++ ['x', '1']

theorem natural_two_pow_zero : Decimal.natural (2 ^ 0) = ['1'] :=
  rfl

theorem hasName_of_ofTypeName? {stem : List Char} {number : Nat} {meaning : Meaning}
    (h : ofTypeName? (stem ++ Decimal.natural number) stem number = some meaning) :
    meaning.HasName (stem ++ Decimal.natural number) := by
  by_cases hlast : stem.getLast? = some 'x'
  · obtain ⟨front, rfl⟩ := List.getLast?_eq_some_iff.mp hlast
    obtain ⟨lane, hlane, rfl, exponent, hexponent, rfl, rfl⟩ := ofTypeName?_vector.mp h
    have hone := ValueType.lanes_of_mem_scalars hlane
    cases exponent with
    | zero =>
        refine .inr ⟨lane, hlane, ?_, ?_⟩
        · rw [ValueType.eq_of_lanes_one hone]
        · rw [natural_two_pow_zero, List.append_assoc, List.singleton_append]
    | succ exponent =>
        exact .inl ⟨.type lane (exponent + 1) hlane hexponent,
          (ValueType.spelling_vector hone (Nat.succ_pos exponent)).symm⟩
  · obtain ⟨lane, hlane, hspelling, rfl⟩ := (ofTypeName?_scalar hlast).mp h
    have hprintable := IsPrintable.type lane 0 hlane (Nat.zero_le 8)
    rw [ValueType.eq_of_lanes_one (ValueType.lanes_of_mem_scalars hlane)] at hprintable
    exact .inl ⟨hprintable, hspelling.symm⟩

theorem ofWord?_spelling {meaning : Meaning} (h : meaning.IsPrintable) :
    ofWord? meaning.spelling = .ok (some meaning) := by
  cases h with
  | entity space number hnumber => exact ofWord?_entity hnumber
  | type lane exponent hlane hexponent =>
      have hone := ValueType.lanes_of_mem_scalars hlane
      cases exponent with
      | zero =>
          rw [ValueType.eq_of_lanes_one hone]
          exact ofWord?_scalar hlane
      | succ exponent =>
          rw [spelling, ValueType.spelling_vector hone (Nat.succ_pos exponent)]
          exact ofWord?_vector hlane hexponent

theorem ofWord?_eq_some_iff {word : List Char} {meaning : Meaning} :
    ofWord? word = .ok (some meaning) ↔ meaning.HasName word := by
  constructor
  · intro h
    cases hsplit : NumberedName.split? word with
    | error fault => simp [ofWord?, hsplit, Except.map] at h
    | ok split =>
        cases split with
        | none => simp [ofWord?, hsplit, Except.map] at h
        | some parts =>
            obtain ⟨stem, number⟩ := parts
            simp only [ofWord?, hsplit, Except.map, Option.bind_some, Except.ok.injEq,
              Option.or_eq_some_iff] at h
            obtain ⟨-, rfl, -⟩ := NumberedName.split?_eq_some_iff.mp hsplit
            rcases h with hentity | ⟨-, htype⟩
            · obtain ⟨space, rfl, hnumber, rfl⟩ := ofEntityName?_eq_some_iff.mp hentity
              exact .inl ⟨.entity space number hnumber, rfl⟩
            · exact hasName_of_ofTypeName? htype
  · rintro (⟨hprintable, rfl⟩ | ⟨lane, hlane, rfl, rfl⟩)
    · exact ofWord?_spelling hprintable
    · have hvector := ofWord?_vector hlane (Nat.zero_le 8)
      rw [natural_two_pow_zero, List.append_assoc, List.singleton_append,
        ValueType.eq_of_lanes_one (ValueType.lanes_of_mem_scalars hlane)] at hvector
      exact hvector

end Meaning

namespace IsWordText

theorem append {text later : List Char} (h : IsWordText text)
    (hlater : later.all isWordChar = true) : IsWordText (text ++ later) := by
  obtain ⟨hfirst, hinside⟩ := h
  constructor
  · cases text with
    | nil => simp at hfirst
    | cons first rest => exact hfirst
  · rw [List.all_append, hinside, hlater, Bool.and_self]

theorem append_natural {text : List Char} (h : IsWordText text) (number : Nat) :
    IsWordText (text ++ Decimal.natural number) := by
  refine h.append ?_
  rw [List.all_eq_true]
  intro c hc
  exact isWordChar_of_isDigit (Decimal.isDigit_of_mem_natural hc)

theorem lexeme?_start {text : List Char} (h : IsWordText text) :
    (Cursor.start text).lexeme? = some (⟨.word, text, 0, 1⟩, ⟨text.length, 1, []⟩) := by
  obtain ⟨hfirst, hinside⟩ := h
  rw [List.all_eq_true] at hinside
  cases text with
  | nil => simp at hfirst
  | cons first later =>
      have hletter : isLetter first = true := hfirst
      have hblank : isBlank first = false :=
        isBlank_eq_false_of_isWordChar (isWordChar_of_isLetter hletter)
      have hstay : (Cursor.start (first :: later)).skipBlanks = Cursor.start (first :: later) := by
        simp [Cursor.skipBlanks, Cursor.skipWhile, Cursor.start, hblank, Cursor.skip_zero]
      have hwhole : (first :: later).takeWhile isWordChar = first :: later :=
        List.takeWhile_eq_self_iff.mpr hinside
      have hline : (first :: later).count '\n' = 0 := by
        rw [List.count_eq_zero]
        intro hnewline
        exact absurd (hinside '\n' hnewline) (by decide)
      rw [Cursor.lexeme?, hstay]
      simp only [Cursor.start, Form.starting_of_isLetter hletter, Form.extent, hwhole, Cursor.cut,
        Cursor.skip, List.take_length, List.drop_length, hline, Nat.zero_add, Nat.add_zero]

theorem scan_eq {text : List Char} (h : IsWordText text) {token : Token}
    (hread : (Lexeme.mk .word text 0 1).readWord = .ok token) :
    scan text = ⟨[.token token], none, ⟨text.length, 1, []⟩⟩ := by
  have hitem : (Lexeme.mk .word text 0 1).read = .ok (.token token) := by
    simp only [Lexeme.read, hread, Except.map]
  have hrest : Cursor.drain ⟨text.length, 1, []⟩ = .stopped ⟨text.length, 1, []⟩ none := by
    rw [Cursor.drain_eq_next]
    rfl
  rw [scan, Cursor.drain_eq_next, Cursor.next_of_lexeme? h.lexeme?_start, hitem]
  simp only [Except.map, hrest]
  rfl

end IsWordText

theorem Meaning.IsPrintable.isWordText {meaning : Meaning} (h : meaning.IsPrintable) :
    IsWordText meaning.spelling := by
  cases h with
  | entity space number hnumber => exact space.isWordText_sigil.append_natural number
  | type lane exponent hlane hexponent =>
      have hone := ValueType.lanes_of_mem_scalars hlane
      have hword := ValueType.isWordText_of_mem_scalars hlane
      cases exponent with
      | zero =>
          rw [ValueType.eq_of_lanes_one hone]
          exact hword
      | succ exponent =>
          rw [spelling, ValueType.spelling_vector hone (Nat.succ_pos exponent)]
          have hcross : ['x'].all isWordChar = true := by decide
          exact (hword.append hcross).append_natural _

/-! ## Word tokens -/

inductive Cursor.ReadsWord (cursor : Cursor) (token : Token) : Prop
  | next (hnext : cursor.next.1 = .ok (some (.token token))) (hform : token.kind.form = .word)
  | word (hword : cursor.word.1 = .ok token)

theorem Form.mem_punctuation_of_starting {first : Char} {later : List Char} {kind : Kind}
    (h : starting first later = .punctuation kind) : (first, kind) ∈ IRLexer.punctuation := by
  unfold starting at h
  split at h
  · contradiction
  · split at h
    · next found hfound =>
        rw [← Form.punctuation.inj h]
        exact mem_punctuation_of_punctuationKind? hfound
    · split at h
      · contradiction
      · split at h
        · contradiction
        · split at h <;> contradiction

theorem Lexeme.form_kind_of_readWord {lexeme : Lexeme} {token : Token}
    (h : lexeme.readWord = .ok token) : token.kind.form = .word := by
  obtain ⟨found, -, rfl⟩ := readWord_eq_ok_iff.mp h
  cases found with
  | none => rfl
  | some meaning => exact meaning.form_kind

theorem Lexeme.readWord_of_read {lexeme : Lexeme} {token : Token} (hform : lexeme.form = .word)
    (hread : lexeme.read = .ok (.token token)) : lexeme.readWord = .ok token := by
  obtain ⟨found, hword, hfound⟩ := (read_eq_ok_iff_of_word hform).mp hread
  rw [hword, Item.token.inj hfound]

theorem Lexeme.form_kind_of_read {lexeme : Lexeme} {first : Char} {later : List Char}
    {token : Token} (hlexeme : lexeme.form = Form.starting first later)
    (hread : lexeme.read = .ok (.token token)) : token.kind.form = lexeme.form := by
  cases hform : lexeme.form with
  | comment =>
      simp only [read, hform, Except.ok.injEq, Item.token.injEq] at hread
      rw [← hread]
      rfl
  | punctuation kind =>
      simp only [read, hform, Except.ok.injEq, Item.token.injEq] at hread
      rw [← hread]
      exact Kind.form_of_mem_punctuation
        (Form.mem_punctuation_of_starting (hlexeme.symm.trans hform))
  | arrow =>
      simp only [read, hform, Except.ok.injEq, Item.token.injEq] at hread
      rw [← hread]
      rfl
  | number =>
      simp only [read, hform, Except.ok.injEq, Item.token.injEq] at hread
      rw [← hread]
      exact NumberLiteral.form_kind lexeme.text
  | word => exact form_kind_of_readWord (readWord_of_read hform hread)
  | stray char => simp [read, hform] at hread

theorem Cursor.ReadsWord.exists_readWord {cursor : Cursor} {token : Token}
    (h : cursor.ReadsWord token) : ∃ lexeme : Lexeme, lexeme.readWord = .ok token := by
  cases h with
  | next hnext hform =>
      obtain ⟨lexeme, after, hlexeme, hread⟩ := exists_read_of_next hnext
      obtain ⟨first, later, -, hcut⟩ := eq_cut_of_lexeme? hlexeme
      have hlexemeForm := Lexeme.form_kind_of_read
        (congrArg Lexeme.form (Prod.mk.inj hcut).1) hread
      exact ⟨lexeme, Lexeme.readWord_of_read (hlexemeForm.symm.trans hform) hread⟩
  | word hword =>
      unfold Cursor.word at hword
      split at hword
      · contradiction
      · split at hword
        · exact ⟨_, hword⟩
        · contradiction

theorem Meaning.kind_ne_identifier (meaning : Meaning) : meaning.kind ≠ .identifier := by
  cases meaning with
  | entity space number => cases space <;> exact Kind.noConfusion
  | type shape => exact Kind.noConfusion

theorem Meaning.spelling_payload {meaning : Meaning}
    (h : ∀ number, meaning.payload ≠ .index number) :
    meaning.payload.spelling = meaning.spelling := by
  cases meaning with
  | entity space number => cases space <;> first | rfl | exact absurd rfl (h number)
  | type shape => rfl

theorem Lexeme.readWord_of_hasName {lexeme : Lexeme} {meaning : Meaning}
    (h : meaning.HasName lexeme.text) :
    lexeme.readWord = .ok (lexeme.token meaning.kind (some meaning.payload)) := by
  simp only [readWord, Meaning.ofWord?_eq_some_iff.mpr h, Except.map]

theorem Lexeme.decoding_of_readWord {lexeme : Lexeme} {token : Token}
    (h : lexeme.readWord = .ok token) :
    ((∃ meaning : Meaning, meaning.HasName token.text ∧ token.kind = meaning.kind ∧
          token.payload = some meaning.payload) ∨
        (token.kind = .identifier ∧ token.payload = none)) ∧
      (token.kind = .identifier ↔ ∀ meaning : Meaning, ¬ meaning.HasName token.text) := by
  obtain ⟨found, hword, rfl⟩ := readWord_eq_ok_iff.mp h
  cases found with
  | none =>
      refine ⟨.inr ⟨rfl, rfl⟩, ?_⟩
      refine iff_of_true rfl ?_
      intro meaning hname
      have hnamed : meaning.HasName lexeme.text := hname
      rw [Meaning.ofWord?_eq_some_iff.mpr hnamed] at hword
      exact absurd (Except.ok.inj hword) (Option.some_ne_none meaning)
  | some meaning =>
      have hname : meaning.HasName lexeme.text := Meaning.ofWord?_eq_some_iff.mp hword
      refine ⟨.inl ⟨meaning, hname, rfl, rfl⟩, ?_⟩
      refine iff_of_false meaning.kind_ne_identifier ?_
      intro hnone
      exact hnone meaning hname

/-- Words are read as what they are printed for, and mean nothing unless they are printed so. -/
theorem words_invert_spelling :
    (∀ meaning : Meaning, meaning.IsPrintable →
      scan meaning.spelling =
        ⟨[.token ⟨meaning.kind, some meaning.payload, meaning.spelling, 0, 1⟩], none,
          ⟨meaning.spelling.length, 1, []⟩⟩) ∧
    (∀ meaning : Meaning, (∀ number, meaning.payload ≠ .index number) →
      meaning.payload.spelling = meaning.spelling) ∧
    ∀ (cursor : Cursor) (token : Token), cursor.ReadsWord token →
      ((∃ meaning : Meaning, meaning.HasName token.text ∧ token.kind = meaning.kind ∧
          token.payload = some meaning.payload) ∨
        (token.kind = .identifier ∧ token.payload = none)) ∧
      (token.kind = .identifier ↔ ∀ meaning : Meaning, ¬ meaning.HasName token.text) := by
  refine ⟨?_, ?_, ?_⟩
  · intro meaning hprintable
    exact hprintable.isWordText.scan_eq (Lexeme.readWord_of_hasName (.inl ⟨hprintable, rfl⟩))
  · intro meaning hpayload
    exact Meaning.spelling_payload hpayload
  · intro cursor token hreads
    obtain ⟨lexeme, hread⟩ := hreads.exists_readWord
    exact Lexeme.decoding_of_readWord hread

theorem words_invert_spelling_table_value :
    scan ['v', 'x', '7'] =
      ⟨[.token ⟨.value, some (.value .table 7), ['v', 'x', '7'], 0, 1⟩], none, ⟨3, 1, []⟩⟩ :=
  words_invert_spelling.1 (.entity .tableValue 7) (.entity .tableValue 7 (by decide))

end IRLexer
