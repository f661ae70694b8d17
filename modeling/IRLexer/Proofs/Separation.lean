import IRLexer.Proofs.LexicalRule
import IRLexer.Proofs.Movement

/-!
# Separated lexemes

Dispatch and extents read on past the text of a lexeme: for the `>` of an arrow, for the colon of a
payload, for the end of a run.  Where the text is followed by nothing or by a blank, and by a line
feed if it is a comment, none of this reaches into what follows.  The text of a lexeme is then the
same lexeme in every source.
-/

namespace IRLexer

namespace Form

/-- What follows ends a lexeme of the form: nothing, or a blank; only a line feed ends a comment. -/
def EndsBefore (form : Form) (later : List Char) : Prop :=
  ∀ c, later.head? = some c → isBlank c = true ∧ (form = .comment → c = '\n')

def IsLexeme (form : Form) (text : List Char) : Prop :=
  ∀ later, form.EndsBefore later → ∃ first rest, text ++ later = first :: rest ∧
    isBlank first = false ∧ starting first rest = form ∧
    form.extent (first :: rest) = text.length

theorem EndsBefore.blank {form : Form} {later : List Char} (h : form.EndsBefore later) {c : Char}
    (hhead : later.head? = some c) : isBlank c = true :=
  (h c hhead).1

theorem endsBefore_nil (form : Form) : form.EndsBefore [] := by
  intro c hhead
  simp at hhead

end Form

theorem isNumberChar_eq_false_of_isBlank {c : Char} (h : isBlank c = true) :
    isNumberChar c = false := by
  rw [Bool.eq_false_iff]
  intro hnumber
  rw [isBlank_eq_false_of_isNumberChar hnumber] at h
  contradiction

namespace NumberLiteral

theorem signLength_eq (text : List Char) :
    signLength text = if text.head? = some '-' then 1 else 0 := by
  unfold signLength
  split
  · rfl
  · next hsign =>
      cases text with
      | nil => rfl
      | cons first later =>
          have hne : first ≠ '-' := by
            rintro rfl
            exact hsign later rfl
          simp [hne]

theorem introLength_append_of_run {run later : List Char}
    (hrun : ∀ c ∈ run, isNumberChar c = true)
    (hlater : ∀ c, later.head? = some c → isBlank c = true) : introLength (run ++ later) = 0 := by
  have hnone (payload : List Char) (hcolon : ':' ∈ payload)
      (hblank : payload.all (fun c => !isBlank c) = true) : ¬ payload <+: run ++ later := by
    intro hbegin
    by_cases hlength : payload.length ≤ run.length
    · have hinside := List.prefix_of_prefix_length_le hbegin (List.prefix_append run later) hlength
      exact absurd (hrun ':' (hinside.subset hcolon)) (by decide)
    · obtain ⟨behind, hwhole⟩ := hbegin
      have hget : (run ++ later)[run.length]? = payload[run.length]? := by
        rw [← hwhole, List.getElem?_append_left (by omega)]
      rw [List.getElem?_append_right (Nat.le_refl _), Nat.sub_self, ← List.head?_eq_getElem?,
        List.getElem?_eq_getElem (by omega)] at hget
      have hfollowing := hlater _ hget
      have hinside := List.all_eq_true.mp hblank payload[run.length] (List.getElem_mem _)
      rw [hfollowing] at hinside
      contradiction
  unfold introLength
  rw [if_neg, if_neg]
  · exact fun h => hnone signalingPayload (by decide) (by decide) (List.isPrefixOf_iff_prefix.mp h)
  · exact fun h => hnone quietPayload (by decide) (by decide) (List.isPrefixOf_iff_prefix.mp h)

theorem introLength_take_append {text run later : List Char}
    (hrun : ∀ c ∈ run, isNumberChar c = true)
    (hlater : ∀ c, later.head? = some c → isBlank c = true) :
    introLength (text.take (introLength text) ++ (run ++ later)) = introLength text := by
  by_cases hzero : introLength text = 0
  · rw [hzero, List.take_zero, List.nil_append, introLength_append_of_run hrun hlater]
  · rcases payload_of_introLength hzero with ⟨hquiet, hlength⟩ | ⟨hsignaling, hlength⟩
    · rw [hlength, ← List.prefix_iff_eq_take.mp hquiet]
      rfl
    · rw [hlength, ← List.prefix_iff_eq_take.mp hsignaling]
      rfl

theorem take_extent (text : List Char) :
    text.take (extent text) =
      text.take (signLength text) ++
        ((unsigned text).take (introLength (unsigned text)) ++
          ((unsigned text).drop (introLength (unsigned text))).takeWhile isNumberChar) := by
  rw [extent, headLength, Nat.add_assoc, List.take_add, List.take_add, ← List.drop_drop,
    ← unsigned, take_length_takeWhile]

theorem extent_take_append {text later : List Char} (hpos : 0 < extent text)
    (hlater : ∀ c, later.head? = some c → isBlank c = true) :
    extent (text.take (extent text) ++ later) = (text.take (extent text)).length := by
  have hhead : (text.take (extent text) ++ later).head? = text.head? := by
    cases text with
    | nil => exact absurd hpos (by decide)
    | cons first rest =>
        rw [List.take_cons hpos, List.cons_append, List.head?_cons, List.head?_cons]
  have hsign : signLength (text.take (extent text) ++ later) = signLength text := by
    rw [signLength_eq, hhead, ← signLength_eq]
  rw [take_extent] at hsign ⊢
  generalize hbody : unsigned text = body at hsign ⊢
  generalize hrunEq : (body.drop (introLength body)).takeWhile isNumberChar = run at hsign ⊢
  have hrun : ∀ c ∈ run, isNumberChar c = true := by
    rw [← hrunEq]
    intro c hc
    exact List.mem_takeWhile_imp hc
  have hend : ∀ c, later.head? = some c → isNumberChar c = false := by
    intro c hc
    exact isNumberChar_eq_false_of_isBlank (hlater c hc)
  have hsignTake : (text.take (signLength text)).length = signLength text := by
    rw [List.length_take, Nat.min_eq_left (signLength_le text)]
  have hintroTake : (body.take (introLength body)).length = introLength body := by
    rw [List.length_take, Nat.min_eq_left (introLength_le body)]
  simp only [List.append_assoc] at hsign ⊢
  have hunsigned : unsigned (text.take (signLength text) ++
      (body.take (introLength body) ++ (run ++ later))) =
        body.take (introLength body) ++ (run ++ later) := by
    rw [unsigned, hsign, List.drop_left' hsignTake]
  have hintro : introLength (body.take (introLength body) ++ (run ++ later)) = introLength body :=
    introLength_take_append hrun hlater
  rw [extent, headLength, hsign, hunsigned, hintro, ← List.drop_drop,
    List.drop_left' hsignTake, List.drop_left' hintroTake, takeWhile_append_of_head hrun hend]
  simp only [List.length_append, hsignTake, hintroTake, Nat.add_assoc]

end NumberLiteral

/-! ## The text of every form -/

namespace Form

theorem isLexeme_comment (later : List Char) :
    comment.IsLexeme (';' :: later.takeWhile (· ≠ '\n')) := by
  intro after hafter
  refine ⟨';', later.takeWhile (· ≠ '\n') ++ after, rfl, by decide, starting_semicolon _, ?_⟩
  have hinside : ∀ c ∈ ';' :: later.takeWhile (· ≠ '\n'), decide (c ≠ '\n') = true := by
    intro c hc
    rcases List.mem_cons.mp hc with rfl | hrun
    · decide
    · exact List.mem_takeWhile_imp (p := fun c => decide (c ≠ '\n')) hrun
  have hend : ∀ c, after.head? = some c → decide (c ≠ '\n') = false := by
    intro c hc
    simp [(hafter c hc).2 rfl]
  rw [extent, ← List.cons_append, takeWhile_append_of_head hinside hend]

theorem isLexeme_punctuation {c : Char} {kind : Kind} (h : (c, kind) ∈ IRLexer.punctuation) :
    (punctuation kind).IsLexeme [c] := by
  intro after hafter
  exact ⟨c, after, rfl, (apart_of_mem_punctuation h).2.2.2.2, starting_of_mem_punctuation h after,
    rfl⟩

theorem isLexeme_arrow : arrow.IsLexeme ['-', '>'] := by
  intro after hafter
  exact ⟨'-', '>' :: after, rfl, by decide, starting_arrow rfl, rfl⟩

theorem isLexeme_word {first : Char} (hletter : isLetter first = true) (later : List Char) :
    word.IsLexeme (first :: later.takeWhile isWordChar) := by
  intro after hafter
  refine ⟨first, later.takeWhile isWordChar ++ after, rfl,
    isBlank_eq_false_of_isWordChar (isWordChar_of_isLetter hletter),
    starting_of_isLetter hletter _, ?_⟩
  have hinside : ∀ c ∈ first :: later.takeWhile isWordChar, isWordChar c = true := by
    intro c hc
    rcases List.mem_cons.mp hc with rfl | hrun
    · exact isWordChar_of_isLetter hletter
    · exact List.mem_takeWhile_imp hrun
  have hend : ∀ c, after.head? = some c → isWordChar c = false := by
    intro c hc
    exact isWordChar_eq_false_of_isBlank (hafter.blank hc)
  rw [extent, ← List.cons_append, takeWhile_append_of_head hinside hend]

theorem isLexeme_stray {c : Char} (hcomment : c ≠ ';')
    (hpunctuation : ∀ kind, (c, kind) ∉ IRLexer.punctuation) (hsign : c ≠ '-')
    (hdigit : c.isDigit = false) (hletter : isLetter c = false) (hblank : isBlank c = false) :
    (stray c).IsLexeme [c] := by
  intro after hafter
  exact ⟨c, after, rfl, hblank,
    starting_stray hcomment hpunctuation hsign hdigit hletter after, rfl⟩

theorem isLexeme_number {first : Char} {later : List Char}
    (hnumber : first.isDigit = true ∨ first = '-' ∧ later.head? ≠ some '>') :
    number.IsLexeme ((first :: later).take (NumberLiteral.extent (first :: later))) := by
  have hstarts : NumberLiteral.startsWith first = true := by
    rcases hnumber with hdigit | ⟨rfl, -⟩
    · exact startsWith_iff.mpr (.inr hdigit)
    · rfl
  have hpos : 0 < NumberLiteral.extent (first :: later) := NumberLiteral.extent_pos hstarts
  intro after hafter
  have hextent := NumberLiteral.extent_take_append hpos fun c hc => hafter.blank hc
  generalize NumberLiteral.extent (first :: later) = count at hpos hextent ⊢
  rw [List.take_cons hpos] at hextent ⊢
  refine ⟨first, later.take (count - 1) ++ after, rfl, ?_, ?_, hextent⟩
  · rcases hnumber with hdigit | ⟨rfl, -⟩
    · exact isBlank_eq_false_of_isWordChar (isWordChar_of_isDigit hdigit)
    · decide
  · rcases hnumber with hdigit | ⟨rfl, hsecond⟩
    · exact starting_of_isDigit hdigit _
    · refine starting_sign ?_
      intro harrow
      cases htail : later.take (count - 1) with
      | nil =>
          rw [htail, List.nil_append] at harrow
          exact absurd (hafter.blank harrow) (by decide)
      | cons second rest =>
          have hbegin : second :: rest <+: later := by
            rw [← htail]
            exact List.take_prefix _ _
          obtain ⟨behind, hwhole⟩ := hbegin
          rw [htail, List.cons_append, List.head?_cons] at harrow
          rw [← hwhole, List.cons_append, List.head?_cons] at hsecond
          contradiction

theorem isLexeme_take {first : Char} (hblank : isBlank first = false) (later : List Char) :
    (starting first later).IsLexeme
      ((first :: later).take ((starting first later).extent (first :: later))) := by
  have hrule : LocalRule (first :: later) ⟨0, _, starting first later⟩ :=
    localRule_starting rfl hblank
  generalize starting first later = form at hrule ⊢
  generalize hstop : 0 + form.extent (first :: later) = stop at hrule
  cases hrule with
  | comment hfirst hrun =>
      obtain rfl := Option.some.inj hfirst
      rw [extent, take_length_takeWhile, List.takeWhile_cons_of_pos (by decide)]
      exact isLexeme_comment later
  | punctuation hfirst hkind =>
      obtain rfl := Option.some.inj hfirst
      exact isLexeme_punctuation hkind
  | arrow hfirst hsecond =>
      obtain rfl := Option.some.inj hfirst
      rw [List.getElem?_cons_succ, ← List.head?_eq_getElem?] at hsecond
      obtain ⟨rest, rfl⟩ := List.head?_eq_some_iff.mp hsecond
      exact isLexeme_arrow
  | number hfirst hnumber hrun =>
      obtain rfl := Option.some.inj hfirst
      rw [List.getElem?_cons_succ, ← List.head?_eq_getElem?] at hnumber
      exact isLexeme_number hnumber
  | word hfirst hletter hrun =>
      obtain rfl := Option.some.inj hfirst
      rw [extent, take_length_takeWhile,
        List.takeWhile_cons_of_pos (isWordChar_of_isLetter hletter)]
      exact isLexeme_word hletter later
  | stray hfirst hcomment hpunctuation hsign hdigit hletter hblank =>
      obtain rfl := Option.some.inj hfirst
      exact isLexeme_stray hcomment hpunctuation hsign hdigit hletter hblank

end Form

end IRLexer
