import IRLexer.Proofs.Refusal
import IRLexer.Proofs.Stepping

/-!
# Requests that cannot be met

A request for a number of characters that are not all left passes over those that are, across every
line feed, and leaves the cursor at the end for good.  A request for a word where none starts moves
nothing.  Counting characters off in two requests is the same as in one, met or unmet.
-/

namespace IRLexer

def Fault.IsUnmet : Fault → Prop
  | .noWord | .textTooShort => True
  | .numeralTooLong _ | .integerTooLong => False

def Cursor.atEnd (source : List Char) : Cursor where
  offset := source.length
  line := 1 + source.count '\n'
  rest := []

namespace Cursor

variable {cursor : Cursor} {source : List Char}

theorem IsIn.eq_atEnd (hin : cursor.IsIn source) (hrest : cursor.rest = []) :
    cursor = atEnd source := by
  have hoffset : source.length = cursor.offset := by
    rw [hin.length_eq, hrest, List.length_nil, Nat.add_zero]
  have hline := hin.standsIn.line_eq
  rw [← hoffset, List.take_length] at hline
  obtain ⟨offset, line, rest⟩ := cursor
  simp only at hoffset hline hrest
  rw [atEnd, hoffset, hline, hrest]

theorem next_atEnd (source : List Char) :
    Request.next.run (atEnd source) = (.ok (.item none), atEnd source) := by
  have hnext : (atEnd source).next = (.ok none, atEnd source) := next_of_lookahead_eq_none rfl
  simp only [Request.run, hnext, Except.map]

theorem eq_atEnd_of_mem_sessionCursors {requests : List Request}
    (h : cursor ∈ sessionCursors (atEnd source) requests) : cursor = atEnd source :=
  (reaches_of_mem_sessionCursors h).eq_of_lookahead_eq_none rfl

/-! ## Characters that are counted off -/

theorem sessionEnd_replicate_advance (cursor : Cursor) (count : Nat) :
    sessionEnd cursor (List.replicate count .advance) = cursor.skip count := by
  induction count generalizing cursor with
  | zero => exact cursor.skip_zero.symm
  | succ count ih =>
      calc
        sessionEnd cursor (List.replicate (count + 1) .advance)
          = sessionEnd (cursor.skip 1) (List.replicate count .advance) := rfl
        _ = (cursor.skip 1).skip count := ih (cursor.skip 1)
        _ = cursor.skip (count + 1) := by rw [skip_skip, Nat.add_comm]

end Cursor

namespace Request

variable {cursor : Cursor} {source : List Char} {count first second : Int}

theorem run_chars_of_le (h : count ≤ cursor.rest.length) (kind : Kind) :
    (chars count kind).run cursor =
      (.ok (.token ⟨kind, none, cursor.rest.take count.toNat, cursor.offset, cursor.line⟩),
        cursor.skip count.toNat) := by
  have hcount : count.toNat ≤ cursor.rest.length := Int.toNat_le.mpr h
  simp only [run, Cursor.chars, if_pos hcount, Except.map]

theorem run_chars_of_lt (h : (cursor.rest.length : Int) < count) (kind : Kind) :
    (chars count kind).run cursor = (.error .textTooShort, cursor.skip count.toNat) := by
  have hcount : ¬ count.toNat ≤ cursor.rest.length := by omega
  simp only [run, Cursor.chars, if_neg hcount, Except.map]

theorem snd_run_chars (cursor : Cursor) (count : Int) (kind : Kind) :
    ((chars count kind).run cursor).2 = cursor.skip count.toNat := by
  rcases le_or_gt count cursor.rest.length with hle | hlt
  · rw [run_chars_of_le hle]
  · rw [run_chars_of_lt hlt]

theorem run_chars_eq_ok_iff {kind : Kind} :
    (∃ reply, ((chars count kind).run cursor).1 = .ok reply) ↔ count ≤ cursor.rest.length := by
  rcases le_or_gt count cursor.rest.length with hle | hlt
  · simp only [run_chars_of_le hle, Except.ok.injEq, exists_eq', hle]
  · simp [run_chars_of_lt hlt, hlt]

theorem run_chars_meets (hin : cursor.IsIn source) (h : cursor.offset + max count 0 ≤ source.length)
    (kind : Kind) :
    ∃ token after, (chars count kind).run cursor = (.ok (.token token), after) ∧
      token.kind = kind ∧ token.payload = none ∧ token.start = cursor.offset ∧
      token.stop = cursor.offset + max count 0 ∧ Item.LiesIn (.token token) source ∧
      after.offset = token.stop ∧ after.StandsIn source := by
  have hlength := hin.length_eq
  have hcount : count ≤ cursor.rest.length := by omega
  have hrun := run_chars_of_le hcount kind
  have hpasses : cursor.Passes
      (.token ⟨kind, none, cursor.rest.take count.toNat, cursor.offset, cursor.line⟩) := by
    apply passes_of_mem_run
    rw [hrun]
    exact List.mem_singleton_self _
  refine ⟨_, _, hrun, rfl, rfl, rfl, ?_, hpasses.liesIn hin, rfl, ?_⟩
  · simp only [Token.stop, List.length_take]
    omega
  · exact (hin.skip count.toNat).standsIn

theorem run_chars_fails (hin : cursor.IsIn source)
    (h : (source.length : Int) < cursor.offset + count) (kind : Kind) :
    (chars count kind).run cursor = (.error .textTooShort, Cursor.atEnd source) := by
  have hlength := hin.length_eq
  have hlt : (cursor.rest.length : Int) < count := by omega
  have hrest : (cursor.skip count.toNat).rest = [] :=
    List.drop_eq_nil_of_le (by omega)
  rw [run_chars_of_lt hlt, (hin.skip count.toNat).eq_atEnd hrest]

theorem snd_run_chars_chars (hfirst : 0 ≤ first) (hsecond : 0 ≤ second) (front back whole : Kind) :
    ((chars second back).run ((chars first front).run cursor).2).2 =
      ((chars (first + second) whole).run cursor).2 := by
  rw [snd_run_chars, snd_run_chars, snd_run_chars, Cursor.skip_skip, Int.toNat_add hfirst hsecond]

theorem run_chars_chars_eq_ok_iff (hfirst : 0 ≤ first) (hsecond : 0 ≤ second)
    (front back whole : Kind) :
    ((∃ reply, ((chars first front).run cursor).1 = .ok reply) ∧
        ∃ reply, ((chars second back).run ((chars first front).run cursor).2).1 = .ok reply) ↔
      ∃ reply, ((chars (first + second) whole).run cursor).1 = .ok reply := by
  rw [run_chars_eq_ok_iff, run_chars_eq_ok_iff, run_chars_eq_ok_iff, snd_run_chars,
    Cursor.rest_skip, List.length_drop]
  omega

theorem text_of_run_chars {kind : Kind} {token : Token}
    (h : ((chars count kind).run cursor).1 = .ok (.token token)) :
    token.text = cursor.rest.take count.toNat := by
  have hle := run_chars_eq_ok_iff.mp ⟨_, h⟩
  rw [run_chars_of_le hle] at h
  cases h
  rfl

theorem text_append_text_of_run_chars (hfirst : 0 ≤ first) (hsecond : 0 ≤ second)
    {front back whole : Kind} {frontToken backToken token : Token}
    (hfront : ((chars first front).run cursor).1 = .ok (.token frontToken))
    (hback : ((chars second back).run ((chars first front).run cursor).2).1 =
      .ok (.token backToken))
    (hwhole : ((chars (first + second) whole).run cursor).1 = .ok (.token token)) :
    frontToken.text ++ backToken.text = token.text := by
  rw [text_of_run_chars hfront, text_of_run_chars hback, text_of_run_chars hwhole, snd_run_chars,
    Cursor.rest_skip, Int.toNat_add hfirst hsecond, List.take_add]

variable {c : Char} {fault : Fault}

theorem run_word_of_no_start (h : ∀ c, cursor.lookahead = some c → isWordStart c = false) :
    word.run cursor = (.error .noWord, cursor) := by
  cases hahead : cursor.lookahead with
  | none => simp only [run, Cursor.word, hahead, Except.map]
  | some c => simp [run, Cursor.word, hahead, h c hahead, Except.map]

theorem not_isUnmet_of_run_word (hahead : cursor.lookahead = some c)
    (hstart : isWordStart c = true) (h : (word.run cursor).1 = .error fault) :
    ¬ fault.IsUnmet := by
  simp only [run, Cursor.word_of_lookahead hahead hstart] at h
  cases hread : (cursor.cut .word (Form.word.extent cursor.rest)).1.readWord with
  | ok token => simp [hread, Except.map] at h
  | error cause =>
      obtain ⟨stem, numeral, -, rfl⟩ := Lexeme.readWord_eq_error_iff.mp hread
      simp only [hread, Except.map, Except.error.injEq] at h
      rw [← h]
      exact id

theorem run_word_unmet_iff :
    (∃ fault, (word.run cursor).1 = .error fault ∧ fault.IsUnmet) ↔
      ∀ c, cursor.lookahead = some c → isWordStart c = false := by
  constructor
  · rintro ⟨fault, hfault, hunmet⟩ c hahead
    cases hstart : isWordStart c with
    | false => rfl
    | true => exact absurd hunmet (not_isUnmet_of_run_word hahead hstart hfault)
  · intro h
    exact ⟨.noWord, by rw [run_word_of_no_start h], trivial⟩

end Request

/--
At any point of a session: a token of as many characters as are left covers just these, and a
request for more of them is not met and leaves the cursor at the end, where it stays; one for a word
is not met exactly where no word starts, and moves nothing.  Two requests for characters do together
what a single one for the sum does.
-/
theorem unmet_requests_settled (source : List Char) (requests : List Request) :
    ∀ cursor ∈ sessionCursors (Cursor.start source) requests,
      (∀ (count : Int) (kind : Kind), cursor.offset + max count 0 ≤ source.length →
        ∃ token after, (Request.chars count kind).run cursor = (.ok (.token token), after) ∧
          token.kind = kind ∧ token.payload = none ∧ token.start = cursor.offset ∧
          token.stop = cursor.offset + max count 0 ∧ Item.LiesIn (.token token) source ∧
          after.offset = token.stop ∧ after.StandsIn source) ∧
      (∀ (count : Int) (kind : Kind), (source.length : Int) < cursor.offset + count →
        (Request.chars count kind).run cursor = (.error .textTooShort, .atEnd source)) ∧
      (Request.next.run (.atEnd source) = (.ok (.item none), .atEnd source) ∧
        ∀ later, ∀ state ∈ sessionCursors (.atEnd source) later, state = .atEnd source) ∧
      (∀ (count : Int) (kind : Kind), ((Request.chars count kind).run cursor).2 =
        sessionEnd cursor (List.replicate count.toNat .advance)) ∧
      ((∃ fault, (Request.word.run cursor).1 = .error fault ∧ fault.IsUnmet) ↔
        cursor.lookahead = none ∨
          ∃ c, cursor.lookahead = some c ∧ c ≠ '_' ∧ isLetter c = false) ∧
      (∀ fault, (Request.word.run cursor).1 = .error fault → fault.IsUnmet →
        (Request.word.run cursor).2 = cursor) ∧
      ∀ (first second : Int) (front back whole : Kind), 0 ≤ first → 0 ≤ second →
        let ahead := (Request.chars first front).run cursor
        let behind := (Request.chars second back).run ahead.2
        let once := (Request.chars (first + second) whole).run cursor
        behind.2 = once.2 ∧
        ((∃ reply, ahead.1 = .ok reply) ∧ (∃ reply, behind.1 = .ok reply) ↔
          ∃ reply, once.1 = .ok reply) ∧
        ∀ frontToken backToken token, ahead.1 = .ok (.token frontToken) →
          behind.1 = .ok (.token backToken) → once.1 = .ok (.token token) →
          frontToken.text ++ backToken.text = token.text := by
  intro cursor hcursor
  have hin := (Cursor.start_isIn source).reaches (reaches_of_mem_sessionCursors hcursor)
  have hnostart : (∀ c, cursor.lookahead = some c → isWordStart c = false) ↔
      cursor.lookahead = none ∨ ∃ c, cursor.lookahead = some c ∧ c ≠ '_' ∧ isLetter c = false := by
    cases cursor.lookahead <;> simp [isWordStart]
  refine ⟨?_, ?_, ⟨Cursor.next_atEnd source, ?_⟩, ?_, ?_, ?_, ?_⟩
  · intro count kind h
    exact Request.run_chars_meets hin h kind
  · intro count kind h
    exact Request.run_chars_fails hin h kind
  · intro later state hstate
    exact Cursor.eq_atEnd_of_mem_sessionCursors hstate
  · intro count kind
    rw [Request.snd_run_chars, Cursor.sessionEnd_replicate_advance]
  · rw [Request.run_word_unmet_iff, hnostart]
  · intro fault hfault hunmet
    rw [Request.run_word_of_no_start (Request.run_word_unmet_iff.mp ⟨fault, hfault, hunmet⟩)]
  · intro first second front back whole hfirst hsecond
    refine ⟨Request.snd_run_chars_chars hfirst hsecond front back whole,
      Request.run_chars_chars_eq_ok_iff hfirst hsecond front back whole, ?_⟩
    intro frontToken backToken token
    exact Request.text_append_text_of_run_chars hfirst hsecond

theorem unmet_requests_settled_newline :
    (∃ token after, (Request.chars 2 .dot).run ⟨1, 1, ['\n', 'b']⟩ = (.ok (.token token), after) ∧
      Item.LiesIn (.token token) ['a', '\n', 'b'] ∧ after.offset = token.stop) ∧
    (Request.chars 3 .dot).run ⟨1, 1, ['\n', 'b']⟩ =
      (.error .textTooShort, .atEnd ['a', '\n', 'b']) ∧
    (Request.word.run ⟨1, 1, ['\n', 'b']⟩).2 = ⟨1, 1, ['\n', 'b']⟩ ∧
    ((Request.chars 2 .dot).run ((Request.chars 1 .dot).run ⟨1, 1, ['\n', 'b']⟩).2).2 =
      ((Request.chars (1 + 2) .dot).run ⟨1, 1, ['\n', 'b']⟩).2 ∧
    (Token.mk .dot none ['\n'] 1 1).text ++ (Token.mk .dot none ['b'] 2 2).text =
      (Token.mk .dot none ['\n', 'b'] 1 1).text := by
  obtain ⟨hmeets, hfails, -, -, -, hword, hsplit⟩ :=
    unmet_requests_settled ['a', '\n', 'b'] [.advance] ⟨1, 1, ['\n', 'b']⟩ (.tail _ (.head _))
  obtain ⟨token, after, hrun, -, -, -, -, hlies, hoffset, -⟩ := hmeets 2 .dot (by decide)
  refine ⟨⟨token, after, hrun, hlies, hoffset⟩, hfails 3 .dot (by decide),
    hword .noWord rfl trivial, ?_, ?_⟩
  · exact (hsplit 1 2 .dot .dot .dot (by decide) (by decide)).1
  · exact (hsplit 1 1 .dot .dot .dot (by decide) (by decide)).2.2 _ _ _ rfl rfl rfl

end IRLexer
