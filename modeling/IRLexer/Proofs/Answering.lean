import IRLexer.Proofs.Stepping

/-!
# Readers come to their answers

A reader passes one character after the other, and between two of them it takes four steps at most.
The one loop that could keep it from an answer is the one that runs up to a colon, and a reader is
led into it only where the colon is in sight.  So a session that is run by readers on a scanner has
an answer for every request, and the answers are those of a session of cursors.
-/

namespace IRLexer

/-- More than the number of steps that are taken from a test on without passing a character. -/
def Control.rank : Control → Nat
  | next => 4
  | number => 3
  | payload => 2
  | chars .. | comment | colon | run _ | word | wordRun => 1
  | answered _ => 0

namespace Reader

variable {reader : Reader} {source : List Char}

inductive Move (reader later : Reader) : Prop
  | rest (given : Except Fault (Option Item)) (hcontrol : reader.control = .answered given)
      (hlater : later = reader)
  | turn (hscanner : later.scanner = reader.scanner ∨ later.scanner = reader.scanner.toLineEnd)
      (hrank : later.control.rank < reader.control.rank)
  | pass (c : Char) (hahead : reader.scanner.lookahead = some c)
      (hscanner : later.scanner = reader.scanner.advance)
      (hrank : later.control.rank ≤ reader.control.rank)
  /-- The loop up to a colon goes round at the end of the source. -/
  | spin (hcontrol : reader.control = .colon) (hahead : reader.scanner.lookahead = none)
      (hlater : later = reader.advance .colon)

theorem move_goto {control : Control} (h : control.rank < reader.control.rank) :
    reader.Move (reader.goto control) :=
  .turn (.inl rfl) h

theorem move_advance {control : Control} {c : Char} (hahead : reader.scanner.lookahead = some c)
    (h : control.rank ≤ reader.control.rank) : reader.Move (reader.advance control) :=
  .pass c hahead rfl h

theorem move_dispatch {first : Char} (hahead : reader.scanner.lookahead = some first)
    (hcontrol : reader.control = .next) : reader.Move (reader.dispatch first) := by
  have hstart {control : Control} (h : control.rank < 4) :
      reader.Move (start control reader.scanner) :=
    .turn (.inl rfl) (by rw [hcontrol]; exact h)
  have hadvance {control : Control} (h : control.rank ≤ 4) :
      reader.Move (reader.advance control) :=
    move_advance hahead (by rw [hcontrol]; exact h)
  unfold dispatch
  repeat' split
  all_goals first
    | exact hstart (by simp [Control.rank])
    | exact hadvance (by simp [Control.rank])

theorem move_step (reader : Reader) : reader.Move reader.step := by
  obtain ⟨control, mark, line, scanner⟩ := reader
  cases control with
  | next =>
      cases hahead : scanner.lookahead with
      | none =>
          simp only [step, hahead]
          exact move_goto (by simp [Control.rank])
      | some first =>
          simp only [step, hahead]
          exact move_dispatch hahead rfl
  | chars left kind =>
      cases left with
      | zero => exact move_goto (by simp [Control.rank])
      | succ left =>
          cases hahead : scanner.lookahead with
          | none =>
              simp only [step, hahead]
              exact move_goto (by simp [Control.rank])
          | some c =>
              simp only [step, hahead]
              exact move_advance hahead (by simp [Control.rank])
  | comment => exact .turn (.inr rfl) (by simp [step, answerToken, goto, Control.rank])
  | number =>
      simp only [step]
      split
      · next hsign => exact move_advance hsign (by simp [Control.rank])
      · exact move_goto (by simp [Control.rank])
  | payload =>
      simp only [step]
      split <;> exact move_goto (by simp [Control.rank])
  | colon =>
      cases hahead : scanner.lookahead with
      | none => exact .spin rfl hahead (by simp [step, hahead])
      | some c =>
          simp only [step]
          split <;> exact move_advance hahead (by simp [Control.rank])
  | run isFloat =>
      cases hahead : scanner.lookahead with
      | none =>
          simp only [step, hahead]
          exact move_goto (by simp [Control.rank])
      | some c =>
          simp only [step, hahead]
          repeat' split
          · exact move_advance hahead (by simp [Control.rank])
          · exact move_advance hahead (by simp [Control.rank])
          · exact move_goto (by simp [Control.rank])
  | word =>
      cases hahead : scanner.lookahead with
      | none =>
          simp only [step, hahead]
          exact move_goto (by simp [Control.rank])
      | some first =>
          simp only [step, hahead]
          split
          · exact move_advance hahead (by simp [Control.rank])
          · exact move_goto (by simp [Control.rank])
  | wordRun =>
      cases hahead : scanner.lookahead with
      | none =>
          simp only [step, hahead]
          exact move_goto (by simp [Control.rank])
      | some c =>
          simp only [step, hahead]
          split
          · exact move_advance hahead (by simp [Control.rank])
          · exact move_goto (by simp [Control.rank])
  | answered given => exact .rest given rfl rfl

theorem standsIn_step (h : reader.scanner.StandsIn source) :
    reader.step.scanner.StandsIn source := by
  cases reader.move_step with
  | rest given hcontrol hlater => rwa [hlater]
  | turn hscanner hrank =>
      rcases hscanner with hscanner | hscanner
      · rwa [hscanner]
      · rw [hscanner]
        exact h.toLineEnd
  | pass c hahead hscanner hrank =>
      rw [hscanner]
      exact h.advance
  | spin hcontrol hahead hlater =>
      rw [hlater]
      exact h.advance

theorem standsIn_after (h : reader.scanner.StandsIn source) (steps : Nat) :
    (after steps reader).scanner.StandsIn source := by
  induction steps generalizing reader with
  | zero => exact h
  | succ steps ih => exact ih (standsIn_step h)

theorem result_after (h : reader.scanner.StandsIn source) (steps : Nat) :
    (after steps reader).result = reader.result := by
  induction steps generalizing reader with
  | zero => rfl
  | succ steps ih => exact (ih (standsIn_step h)).trans (result_step h)

/-! ## The way to a colon -/

/-- If the reader is on its way to a colon, one of the next five characters is that colon. -/
def ColonAhead (reader : Reader) (source : List Char) : Prop :=
  reader.control = .colon → ∃ index < 5, source[reader.scanner.position + index]? = some ':'

theorem exists_colon_of_introLength {text : List Char} (h : NumberLiteral.introLength text ≠ 0) :
    ∃ index < 5, text[index]? = some ':' := by
  rcases payload_of_introLength h with ⟨⟨later, rfl⟩, -⟩ | ⟨⟨later, rfl⟩, -⟩
  · exact ⟨3, by decide, rfl⟩
  · exact ⟨4, by decide, rfl⟩

theorem control_dispatch_ne_colon (reader : Reader) (first : Char) :
    (reader.dispatch first).control ≠ .colon := by
  unfold dispatch
  repeat' split
  all_goals simp [start, advance]

theorem control_step_eq_colon (h : reader.step.control = .colon) :
    (reader.control = .payload ∧ NumberLiteral.introLength reader.scanner.cursor.rest ≠ 0 ∧
      reader.step.scanner = reader.scanner) ∨
    (reader.control = .colon ∧ reader.scanner.lookahead ≠ some ':' ∧
      reader.step.scanner = reader.scanner.advance) := by
  cases hcontrol : reader.control with
  | payload =>
      rw [step_payload hcontrol] at h ⊢
      split at h
      · next hintro => exact .inl ⟨rfl, hintro, by rw [if_pos hintro]; rfl⟩
      · contradiction
  | colon =>
      by_cases hcolon : reader.scanner.lookahead = some ':'
      · simp [step, hcontrol, hcolon, advance] at h
      · exact .inr ⟨rfl, hcolon, by simp [step, hcontrol, hcolon, advance]⟩
  | next =>
      cases hahead : reader.scanner.lookahead with
      | none => simp [step, hcontrol, hahead, goto] at h
      | some first =>
          simp only [step, hcontrol, hahead] at h
          exact absurd h (control_dispatch_ne_colon _ first)
  | chars left kind =>
      cases left <;> simp only [step, hcontrol] at h
      · contradiction
      · split at h <;> contradiction
  | comment | number | run isFloat | word | wordRun =>
      simp only [step, hcontrol] at h
      repeat' split at h
      all_goals contradiction
  | answered given => simp [step, hcontrol] at h

theorem colonAhead_step (h : reader.scanner.StandsIn source) (hcolon : reader.ColonAhead source) :
    reader.step.ColonAhead source := by
  intro hcontrol
  rcases control_step_eq_colon hcontrol with ⟨-, hintro, hscanner⟩ | ⟨hloop, hahead, hscanner⟩
  · obtain ⟨index, hindex, hget⟩ := exists_colon_of_introLength hintro
    rw [h.isIn.rest_eq, List.getElem?_drop] at hget
    rw [hscanner]
    exact ⟨index, hindex, hget⟩
  · obtain ⟨index, hindex, hget⟩ := hcolon hloop
    cases index with
    | zero => exact absurd (h.lookahead_eq.trans hget) hahead
    | succ index =>
        obtain ⟨c, hnext⟩ : ∃ c, reader.scanner.lookahead = some c := by
          have hlt := (List.getElem?_eq_some_iff.mp hget).1
          rw [h.lookahead_eq]
          exact ⟨_, List.getElem?_eq_getElem (by omega)⟩
        have hposition : reader.step.scanner.position = reader.scanner.position + 1 := by
          rw [hscanner, Scanner.advance, hnext]
        refine ⟨index, by omega, ?_⟩
        rw [hposition, Nat.add_assoc, Nat.add_comm 1 index, hget]

theorem colonAhead_after (h : reader.scanner.StandsIn source) (hcolon : reader.ColonAhead source)
    (steps : Nat) : (after steps reader).ColonAhead source := by
  induction steps generalizing reader with
  | zero => exact hcolon
  | succ steps ih => exact ih (standsIn_step h) (colonAhead_step h hcolon)

/-- Where no colon is ahead the loop has no end; at the end of the source it moves nothing. -/
theorem control_after_of_no_colon (h : reader.scanner.StandsIn source)
    (hcontrol : reader.control = .colon) (hnone : ':' ∉ reader.scanner.cursor.rest)
    (steps : Nat) : (after steps reader).control = .colon := by
  induction steps generalizing reader with
  | zero => exact hcontrol
  | succ steps ih =>
      have hahead : reader.scanner.lookahead ≠ some ':' := fun hhead =>
        hnone (List.mem_of_head? (h.lookahead_cursor.trans hhead))
      have hstep : reader.step = reader.advance .colon := by
        simp only [step, hcontrol, hahead, if_false]
      rw [after, hstep]
      refine ih h.advance rfl fun hmem => hnone ?_
      rw [advance, h.cursor_advance] at hmem
      exact List.mem_of_mem_drop hmem

def bound (reader : Reader) (source : List Char) : Nat :=
  source.length - reader.scanner.position + reader.control.rank

theorem bound_step_lt (h : reader.scanner.StandsIn source) (hcolon : reader.ColonAhead source)
    (hrunning : ∀ given, reader.control ≠ .answered given) :
    reader.step.bound source < reader.bound source := by
  cases reader.move_step with
  | rest given hcontrol hlater => exact absurd hcontrol (hrunning given)
  | turn hscanner hrank =>
      have hle : reader.scanner.position ≤ reader.step.scanner.position := by
        rcases hscanner with hscanner | hscanner
        · exact Nat.le_of_eq (congrArg Scanner.position hscanner.symm)
        · rw [hscanner, Scanner.toLineEnd, h.lineEnd_eq]
          exact Nat.le_add_right _ _
      simp only [bound]
      omega
  | pass c hahead hscanner hrank =>
      have hlt := (List.getElem?_eq_some_iff.mp (h.lookahead_eq.symm.trans hahead)).1
      have hposition : reader.step.scanner.position = reader.scanner.position + 1 := by
        rw [hscanner, Scanner.advance, hahead]
      simp only [bound]
      omega
  | spin hcontrol hahead hlater =>
      obtain ⟨index, -, hget⟩ := hcolon hcontrol
      rw [h.lookahead_eq, List.getElem?_eq_none_iff] at hahead
      have hlt := (List.getElem?_eq_some_iff.mp hget).1
      omega

theorem exists_answered (h : reader.scanner.StandsIn source) (hcolon : reader.ColonAhead source) :
    ∃ steps ≤ reader.bound source, ∃ given,
      (after steps reader).control = .answered given := by
  induction hbound : reader.bound source using Nat.strongRecOn generalizing reader with
  | ind bound ih =>
      by_cases hanswered : ∃ given, reader.control = .answered given
      · exact ⟨0, Nat.zero_le _, hanswered⟩
      · have hlt := bound_step_lt h hcolon fun given hcontrol => hanswered ⟨given, hcontrol⟩
        rw [hbound] at hlt
        obtain ⟨steps, hsteps, hlater⟩ :=
          ih _ hlt (standsIn_step h) (colonAhead_step h hcolon) rfl
        exact ⟨steps + 1, by omega, hlater⟩

theorem exists_answer (h : reader.scanner.StandsIn source) (hcolon : reader.ColonAhead source) :
    ∃ steps ≤ reader.bound source, (after steps reader).control = .answered reader.result.1 ∧
      (after steps reader).scanner = reader.result.2.scanner source := by
  obtain ⟨steps, hsteps, given, hgiven⟩ := exists_answered h hcolon
  have hresult := (result_after h steps).symm.trans (result_of_answered hgiven)
  refine ⟨steps, hsteps, ?_, ?_⟩
  · rw [hgiven, hresult]
  · rw [hresult, (standsIn_after h steps).scanner_cursor]

theorem after_of_answered {given : Except Fault (Option Item)}
    (h : reader.control = .answered given) (steps : Nat) : after steps reader = reader := by
  induction steps with
  | zero => rfl
  | succ steps ih =>
      have hstep : reader.step = reader := by simp only [step, h]
      rw [after, hstep, ih]

theorem answer?_of_answered {given : Except Fault (Option Item)}
    (h : reader.control = .answered given) : reader.answer? = some (given, reader.scanner) := by
  rw [answer?, h]

theorem answer?_eq_none (h : ∀ given, reader.control ≠ .answered given) :
    reader.answer? = none := by
  unfold answer?
  split
  · next given hcontrol => exact absurd hcontrol (h given)
  · rfl

theorem finish_of_after {given : Except Fault (Option Item)} {steps limit : Nat}
    (h : (after steps reader).control = .answered given) (hle : steps ≤ limit) :
    reader.finish limit = some (given, (after steps reader).scanner) := by
  induction limit generalizing reader steps with
  | zero =>
      rw [Nat.le_zero.mp hle] at h ⊢
      exact answer?_of_answered h
  | succ limit ih =>
      rw [finish]
      by_cases hanswered : ∃ other, reader.control = .answered other
      · obtain ⟨other, hcontrol⟩ := hanswered
        rw [after_of_answered hcontrol] at h ⊢
        rw [answer?_of_answered h]
      · rw [answer?_eq_none fun other hcontrol => hanswered ⟨other, hcontrol⟩]
        cases steps with
        | zero => exact absurd ⟨given, h⟩ hanswered
        | succ steps => exact ih h (Nat.le_of_succ_le_succ hle)

theorem finish_eq (h : reader.scanner.StandsIn source) (hcolon : reader.ColonAhead source)
    {limit : Nat} (hlimit : reader.bound source ≤ limit) :
    reader.finish limit = some (reader.result.1, reader.result.2.scanner source) := by
  obtain ⟨steps, hsteps, hcontrol, hscanner⟩ := exists_answer h hcolon
  rw [finish_of_after hcontrol (Nat.le_trans hsteps hlimit), hscanner]

theorem bound_start_le (control : Control) (scanner : Scanner) (source : List Char) :
    (start control scanner).bound source ≤ source.length - scanner.position + 4 := by
  have hrank : control.rank ≤ 4 := by
    cases control <;> simp [Control.rank]
  exact Nat.add_le_add_left hrank _

end Reader

theorem Request.run_eq_result {request : Request} {control : Control}
    (h : request.control? = some control) (cursor : Cursor) :
    request.run cursor =
      ((control.result cursor cursor).1.map .item, (control.result cursor cursor).2) := by
  cases request with
  | next =>
      rw [← Option.some.inj h]
      rfl
  | word =>
      rw [← Option.some.inj h, Control.result_word]
      simp only [run]
      cases cursor.word.1 <;> rfl
  | number =>
      rw [← Option.some.inj h, Control.result_number]
      rfl
  | comment =>
      rw [← Option.some.inj h, Control.result_comment]
      rfl
  | chars count kind =>
      rw [← Option.some.inj h, Control.result_chars]
      simp only [run]
      cases (cursor.chars count.toNat kind).1 <;> rfl
  | restOfLine | drain | take limit | advance | lookingAt expected | lineEnd => contradiction

theorem Request.control?_ne_colon (request : Request) : request.control? ≠ some .colon := by
  cases request <;> simp [control?]

/-! ## Sessions that are run by readers -/

def Scan.found (scan : Scan) : Except Fault (List Item) :=
  match scan.fault with
  | some fault => .error fault
  | none => .ok scan.items

theorem Scan.reply_eq_found (scan : Scan) : scan.reply = scan.found.map .items := by
  unfold reply found
  cases scan.fault <;> rfl

theorem Scan.found_prepend (scan : Scan) (item : Item) :
    (scan.prepend item).found = scan.found.map (item :: ·) := by
  unfold found prepend
  cases scan.fault <;> rfl

variable {cursor : Cursor} {source : List Char}

theorem Cursor.take_eq_drain {limit : Nat} {cursor : Cursor} (h : cursor.rest.length < limit) :
    cursor.take limit = cursor.drain := by
  induction limit generalizing cursor with
  | zero => exact absurd h (Nat.not_lt_zero _)
  | succ limit ih =>
      rw [take, drain_eq_next]
      rcases hnext : cursor.next with ⟨fault | item?, after⟩
      · rfl
      · cases item? with
        | none => rfl
        | some item =>
            have hshorter := rest_lt_of_next hnext (by simp)
            exact congrArg (Scan.prepend item) (ih (by omega))

namespace Scanner

theorem read_eq (h : cursor.IsIn source) {control : Control} (hcontrol : control ≠ .colon) :
    (cursor.scanner source).read control =
      some ((control.result cursor cursor).1, (control.result cursor cursor).2.scanner source) := by
  have hcolon : (Reader.start control (cursor.scanner source)).ColonAhead source :=
    fun hloop => absurd hloop hcontrol
  have hfinish := Reader.finish_eq h.standsIn_scanner hcolon (Reader.bound_start_le _ _ _)
  rw [Reader.result_start, h.cursor_scanner] at hfinish
  exact hfinish

theorem take_eq (h : cursor.IsIn source) (limit : Nat) :
    (cursor.scanner source).take limit =
      some ((cursor.take limit).found, (cursor.take limit).cursor.scanner source) := by
  induction limit generalizing cursor with
  | zero => rfl
  | succ limit ih =>
      have hafter := h.reaches cursor.reaches_next
      have hread : (cursor.scanner source).read .next =
          some (cursor.next.1, cursor.next.2.scanner source) := read_eq h (by simp)
      rw [take, hread, Cursor.take]
      rcases hnext : cursor.next with ⟨fault | item?, after⟩
      · rfl
      · cases item? with
        | none => rfl
        | some item =>
            rw [hnext] at hafter
            simp only [Option.bind_eq_bind, Option.bind_some, ih hafter, Scan.found_prepend]
            rfl

theorem drain_eq (h : cursor.IsIn source) :
    (cursor.scanner source).drain =
      some (cursor.drain.found, cursor.drain.cursor.scanner source) := by
  have hleft : source.length - cursor.offset = cursor.rest.length := by
    rw [h.length_eq, Nat.add_sub_cancel_left]
  rw [drain, take_eq h, Cursor.take_eq_drain]
  exact Nat.lt_succ_of_le (Nat.le_of_eq hleft.symm)

end Scanner

theorem Request.serve_of_control? {request : Request} {control : Control}
    (h : request.control? = some control) (scanner : Scanner) :
    request.serve scanner = scanner.answerItem control := by
  cases request <;> cases h <;> rfl

theorem Request.serve_eq (h : cursor.IsIn source) (request : Request) :
    request.serve (cursor.scanner source) =
      some ((request.run cursor).1, (request.run cursor).2.scanner source) := by
  have hstands := h.standsIn_scanner
  cases hcontrol : request.control? with
  | some control =>
      have hne : control ≠ .colon := fun heq => request.control?_ne_colon (heq ▸ hcontrol)
      rw [serve_of_control? hcontrol, Scanner.answerItem, Scanner.read_eq h hne,
        run_eq_result hcontrol]
      rfl
  | none =>
      cases request with
      | drain =>
          simp [serve, run, Scanner.drain_eq h, Scan.reply_eq_found]
      | take limit =>
          simp [serve, run, Scanner.take_eq h, Scan.reply_eq_found]
      | restOfLine =>
          have hafter := hstands.toLineEnd.scanner_cursor
          rw [hstands.cursor_toLineEnd, h.cursor_scanner] at hafter
          simp [serve, run, hstands.restOfLine_eq, h.cursor_scanner, hafter]
      | advance =>
          have hafter := hstands.advance.scanner_cursor
          have hahead := hstands.advance.lookahead_cursor
          rw [hstands.cursor_advance, h.cursor_scanner] at hafter hahead
          simp [serve, run, hafter, hahead]
      | lookingAt expected => simp [serve, run, Scanner.lookingAt_eq, h.cursor_scanner]
      | lineEnd => simp [serve, run, hstands.lineEnd_eq, h.cursor_scanner]
      | next | word | number | comment | chars count kind => contradiction

/-- A session that readers run on a scanner is the session of the cursor that stands there. -/
theorem Scanner.runSession_eq (h : cursor.IsIn source) (requests : List Request) :
    (cursor.scanner source).runSession requests =
      some ((IRLexer.runSession cursor requests).map (Prod.map id (·.scanner source))) := by
  induction requests generalizing cursor with
  | nil => rfl
  | cons request later ih =>
      have hafter := h.reaches (Request.reaches_run cursor request)
      rw [runSession, Request.serve_eq h]
      simp only [Option.bind_eq_bind, Option.bind_some, ih hafter]
      rfl

end IRLexer
