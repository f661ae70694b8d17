import IRLexer.Proofs.Position

/-!
# Translation of cursors

A cursor counts the characters and the lines behind it, and no operation looks at the counts: it
adds to them.  Moving the counts of a cursor therefore moves the places in every answer by as much
and changes nothing else.
-/

namespace IRLexer

variable (offset line : Nat)

def Cursor.shift (cursor : Cursor) : Cursor where
  offset := cursor.offset + offset
  line := cursor.line + line
  rest := cursor.rest

def Lexeme.shift (lexeme : Lexeme) : Lexeme where
  form := lexeme.form
  text := lexeme.text
  start := lexeme.start + offset
  line := lexeme.line + line

def Token.shift (token : Token) : Token where
  kind := token.kind
  payload := token.payload
  text := token.text
  start := token.start + offset
  line := token.line + line

def CharError.shift (error : CharError) : CharError where
  char := error.char
  offset := error.offset + offset
  line := error.line + line

def Item.shift : Item → Item
  | .token found => .token (found.shift offset line)
  | .invalid error => .invalid (error.shift offset line)

def Scan.shift (scan : Scan) : Scan where
  items := scan.items.map (Item.shift offset line)
  fault := scan.fault
  cursor := scan.cursor.shift offset line

/-- Of the replies only items and the offset of a line end name places. -/
def Reply.shift : Reply → Reply
  | .item found => .item (found.map (Item.shift offset line))
  | .items found => .items (found.map (Item.shift offset line))
  | .offset place => .offset (place + offset)
  | reply => reply

namespace Cursor

@[simp] theorem rest_shift (cursor : Cursor) : (cursor.shift offset line).rest = cursor.rest :=
  rfl

@[simp] theorem lookahead_shift (cursor : Cursor) :
    (cursor.shift offset line).lookahead = cursor.lookahead :=
  rfl

@[simp] theorem skip_shift (cursor : Cursor) (count : Nat) :
    (cursor.shift offset line).skip count = (cursor.skip count).shift offset line := by
  simp only [skip, shift, Cursor.mk.injEq, and_true]
  constructor <;> omega

@[simp] theorem skipBlanks_shift (cursor : Cursor) :
    (cursor.shift offset line).skipBlanks = cursor.skipBlanks.shift offset line :=
  skip_shift offset line cursor _

@[simp] theorem toLineEnd_shift (cursor : Cursor) :
    (cursor.shift offset line).toLineEnd = cursor.toLineEnd.shift offset line := by
  rw [toLineEnd_eq_skip, toLineEnd_eq_skip]
  exact skip_shift offset line cursor _

@[simp] theorem lineEnd_shift (cursor : Cursor) :
    (cursor.shift offset line).lineEnd = cursor.lineEnd + offset := by
  simp only [lineEnd, restOfLine, shift]
  omega

theorem cut_shift (cursor : Cursor) (form : Form) (count : Nat) :
    (cursor.shift offset line).cut form count =
      ((cursor.cut form count).1.shift offset line,
        (cursor.cut form count).2.shift offset line) := by
  simp only [cut, skip_shift]
  rfl

theorem lexeme?_shift (cursor : Cursor) :
    (cursor.shift offset line).lexeme? =
      cursor.lexeme?.map (Prod.map (Lexeme.shift offset line) (Cursor.shift offset line)) := by
  unfold lexeme?
  rw [skipBlanks_shift, rest_shift]
  cases cursor.skipBlanks.rest with
  | nil => rfl
  | cons first later =>
      simp only [cut_shift]
      rfl

end Cursor

theorem Lexeme.readWord_shift (lexeme : Lexeme) :
    (lexeme.shift offset line).readWord = lexeme.readWord.map (Token.shift offset line) := by
  unfold readWord
  rw [show (lexeme.shift offset line).text = lexeme.text from rfl]
  cases Meaning.ofWord? lexeme.text with
  | error fault => rfl
  | ok meaning => cases meaning <;> rfl

theorem Lexeme.read_shift (lexeme : Lexeme) :
    (lexeme.shift offset line).read = lexeme.read.map (Item.shift offset line) := by
  obtain ⟨form, text, start, startLine⟩ := lexeme
  cases form with
  | word =>
      simp only [read, shift]
      have hword := readWord_shift offset line ⟨.word, text, start, startLine⟩
      simp only [shift] at hword
      rw [hword]
      cases Lexeme.readWord ⟨.word, text, start, startLine⟩ <;> rfl
  | comment | punctuation kind | arrow | number | stray char => rfl

namespace Cursor

theorem next_shift (cursor : Cursor) :
    (cursor.shift offset line).next =
      (cursor.next.1.map (Option.map (Item.shift offset line)),
        cursor.next.2.shift offset line) := by
  unfold next
  rw [lexeme?_shift]
  cases cursor.lexeme? with
  | none => simp [Except.map]
  | some found =>
      obtain ⟨lexeme, after⟩ := found
      simp only [Option.map_some, Prod.map_apply, Lexeme.read_shift]
      cases lexeme.read <;> rfl

theorem word_shift (cursor : Cursor) :
    (cursor.shift offset line).word =
      (cursor.word.1.map (Token.shift offset line), cursor.word.2.shift offset line) := by
  unfold word
  rw [lookahead_shift]
  cases cursor.lookahead with
  | none => rfl
  | some first =>
      by_cases hstart : isWordStart first = true
      · simp only [hstart, ↓reduceIte, rest_shift, cut_shift, Lexeme.readWord_shift]
      · simp only [hstart]
        rfl

theorem number_shift (cursor : Cursor) :
    (cursor.shift offset line).number =
      (cursor.number.1.shift offset line, cursor.number.2.shift offset line) := by
  simp only [number, rest_shift, cut_shift]
  rfl

theorem comment_shift (cursor : Cursor) :
    (cursor.shift offset line).comment =
      (cursor.comment.1.shift offset line, cursor.comment.2.shift offset line) := by
  simp only [comment, rest_shift, cut_shift]
  rfl

theorem chars_shift (cursor : Cursor) (count : Nat) (kind : Kind) :
    (cursor.shift offset line).chars count kind =
      ((cursor.chars count kind).1.map (Token.shift offset line),
        (cursor.chars count kind).2.shift offset line) := by
  unfold chars
  rw [rest_shift, skip_shift]
  split <;> rfl

theorem take_shift (cursor : Cursor) (limit : Nat) :
    (cursor.shift offset line).take limit = (cursor.take limit).shift offset line := by
  induction limit generalizing cursor with
  | zero => rfl
  | succ limit ih =>
      simp only [take, next_shift]
      rcases cursor.next with ⟨result, after⟩
      cases result with
      | error fault => rfl
      | ok found =>
          cases found with
          | none => rfl
          | some item =>
              simp only [Except.map, Option.map_some, ih]
              rfl

theorem drain_shift (cursor : Cursor) :
    (cursor.shift offset line).drain = cursor.drain.shift offset line := by
  fun_induction drain cursor with
  | case1 cursor hlexeme =>
      rw [drain_eq_next, next_shift]
      simp [next, hlexeme, Except.map, Scan.stopped, Scan.shift]
  | case2 cursor lexeme after hlexeme fault hread =>
      rw [drain_eq_next, next_shift]
      simp [next, hlexeme, hread, Except.map, Scan.stopped, Scan.shift]
  | case3 cursor lexeme after hlexeme item hread ih =>
      rw [drain_eq_next, next_shift]
      simp [next, hlexeme, hread, Except.map, ih, Scan.prepend, Scan.shift]

end Cursor

/-! ## Sessions -/

theorem Scan.reply_shift (scan : Scan) :
    (scan.shift offset line).reply = scan.reply.map (Reply.shift offset line) := by
  obtain ⟨items, fault, cursor⟩ := scan
  cases fault <;> rfl

def shiftEntry (entry : Except Fault Reply × Cursor) : Except Fault Reply × Cursor :=
  (entry.1.map (Reply.shift offset line), entry.2.shift offset line)

theorem Request.run_shift (cursor : Cursor) (request : Request) :
    request.run (cursor.shift offset line) = shiftEntry offset line (request.run cursor) := by
  cases request with
  | next =>
      simp only [run, Cursor.next_shift]
      cases cursor.next.1 <;> rfl
  | restOfLine => simp [run, shiftEntry, Cursor.restOfLine, Except.map, Reply.shift]
  | drain =>
      simp only [run, Cursor.drain_shift, Scan.reply_shift]
      rfl
  | take limit =>
      simp only [run, Cursor.take_shift, Scan.reply_shift]
      rfl
  | advance => simp [run, shiftEntry, Except.map, Reply.shift]
  | lookingAt expected => simp [run, shiftEntry, Cursor.lookingAt, Except.map, Reply.shift]
  | lineEnd => simp [run, shiftEntry, Except.map, Reply.shift]
  | word =>
      simp only [run, Cursor.word_shift]
      cases cursor.word.1 <;> rfl
  | number =>
      simp only [run, Cursor.number_shift]
      rfl
  | comment =>
      simp only [run, Cursor.comment_shift]
      rfl
  | chars count kind =>
      simp only [run, Cursor.chars_shift]
      cases (cursor.chars count.toNat kind).1 <;> rfl

theorem runSession_shift (cursor : Cursor) (requests : List Request) :
    runSession (cursor.shift offset line) requests =
      (runSession cursor requests).map (shiftEntry offset line) := by
  induction requests generalizing cursor with
  | nil => rfl
  | cons request later ih =>
      simp only [runSession, Request.run_shift, shiftEntry, ih, List.map_cons]

def sessionEnd (cursor : Cursor) (requests : List Request) : Cursor :=
  requests.foldl (fun current request => (request.run current).2) cursor

variable {offset line}

theorem reaches_sessionEnd (cursor : Cursor) (requests : List Request) :
    cursor.Reaches (sessionEnd cursor requests) := by
  induction requests generalizing cursor with
  | nil => exact .refl cursor
  | cons request later ih => exact (Request.reaches_run cursor request).trans (ih _)

theorem runSession_append (cursor : Cursor) (before later : List Request) :
    runSession cursor (before ++ later) =
      runSession cursor before ++ runSession (sessionEnd cursor before) later := by
  induction before generalizing cursor with
  | nil => rfl
  | cons request before ih =>
      simp only [List.cons_append, runSession, ih]
      rfl

theorem Cursor.IsIn.eq_shift_start {cursor : Cursor} {source : List Char}
    (h : cursor.IsIn source) :
    cursor = (start (source.drop cursor.offset)).shift cursor.offset (cursor.line - 1) := by
  have hline := h.standsIn.line_eq
  have hrest := h.rest_eq
  obtain ⟨offset, line, rest⟩ := cursor
  simp only [start, shift, Cursor.mk.injEq] at hline hrest ⊢
  refine ⟨by omega, by omega, hrest⟩

end IRLexer
