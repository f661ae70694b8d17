import IRLexer.Proofs.Answering
import IRLexer.Proofs.Translation

/-!
# Sessions of a scanner

A scanner keeps the whole source, and its readers look into it by offsets that count from the
beginning.  Still a session keeps the position, the lookahead and the line of the scanner in step,
and nothing that lies behind the position has a part in an answer: a session that goes on in the
middle of a source answers as a session on the rest of that source does, in other places.
-/

namespace IRLexer

namespace Scanner

def states (scanner : Scanner) (entries : List (Except Fault Reply × Scanner)) : List Scanner :=
  scanner :: entries.map Prod.snd

def last (scanner : Scanner) (entries : List (Except Fault Reply × Scanner)) : Scanner :=
  (entries.map Prod.snd).getLastD scanner

/-- The scanner in a source that has more characters and more lines in front. -/
def shift (scanner : Scanner) (source : List Char) (offset line : Nat) : Scanner where
  source := source
  position := scanner.position + offset
  lookahead := scanner.lookahead
  line := scanner.line + line

def shiftEntry (source : List Char) (offset line : Nat) (entry : Except Fault Reply × Scanner) :
    Except Fault Reply × Scanner :=
  (entry.1.map (Reply.shift offset line), entry.2.shift source offset line)

theorem start_eq (source : List Char) : start source = (Cursor.start source).scanner source := by
  rw [start, Cursor.scanner, Cursor.lookahead, List.head?_eq_getElem?]
  rfl

theorem runSession_start (source : List Char) (requests : List Request) :
    (start source).runSession requests =
      some ((IRLexer.runSession (Cursor.start source) requests).map
        (Prod.map id (·.scanner source))) := by
  rw [start_eq]
  exact runSession_eq (Cursor.start_isIn source) requests

theorem states_eq (source : List Char) (cursor : Cursor) (requests : List Request) :
    states (cursor.scanner source)
        ((IRLexer.runSession cursor requests).map (Prod.map id (·.scanner source))) =
      (sessionCursors cursor requests).map (·.scanner source) := by
  simp [states, sessionCursors]

theorem last_eq (source : List Char) (cursor : Cursor) (requests : List Request) :
    last (cursor.scanner source)
        ((IRLexer.runSession cursor requests).map (Prod.map id (·.scanner source))) =
      (sessionEnd cursor requests).scanner source := by
  induction requests generalizing cursor with
  | nil => rfl
  | cons request later ih =>
      rw [sessionEnd, List.foldl_cons, ← sessionEnd, ← ih]
      simp only [last, IRLexer.runSession, List.map_cons, List.getLastD_cons]
      rfl

theorem map_runSession_eq {cursor : Cursor} {source : List Char} (h : cursor.IsIn source)
    (requests : List Request) :
    (IRLexer.runSession cursor requests).map (Prod.map id (·.scanner source)) =
      ((IRLexer.runSession (Cursor.start (source.drop cursor.offset)) requests).map
        (Prod.map id (·.scanner (source.drop cursor.offset)))).map
          (shiftEntry source cursor.offset (cursor.line - 1)) := by
  conv => lhs; rw [h.eq_shift_start, runSession_shift]
  rw [List.map_map, List.map_map]
  rfl

end Scanner

/-- The place of the cursor and of every answered item at any point of any session. -/
theorem session_positions (source : List Char) (requests : List Request) :
    (∀ cursor ∈ sessionCursors (Cursor.start source) requests, cursor.StandsIn source) ∧
      (sessionCursors (Cursor.start source) requests).Pairwise (fun cursor later =>
        cursor.offset ≤ later.offset ∧ (cursor.lookahead = none → later = cursor)) ∧
      (∀ entry ∈ runSession (Cursor.start source) requests,
        ∀ item ∈ answeredItems entry.1, item.LiesIn source) ∧
      ∃ entries, (Scanner.start source).runSession requests = some entries ∧
        entries.map Prod.fst = (runSession (Cursor.start source) requests).map Prod.fst ∧
        (∀ scanner ∈ (Scanner.start source).states entries, scanner.StandsIn source ∧
          (scanner.lookahead = none ↔ scanner.position = source.length)) ∧
        ((Scanner.start source).states entries).Pairwise (fun scanner later =>
          scanner.position ≤ later.position ∧ (scanner.lookahead = none → later = scanner)) := by
  have hstart := Cursor.start_isIn source
  have hpairwise : (sessionCursors (Cursor.start source) requests).Pairwise (fun cursor later =>
      cursor.offset ≤ later.offset ∧ (cursor.lookahead = none → later = cursor)) := by
    refine (sessionCursors_pairwise _ requests).imp ?_
    intro cursor later hreach
    exact ⟨hreach.offset_le, hreach.eq_of_lookahead_eq_none⟩
  refine ⟨?_, hpairwise, ?_, _, Scanner.runSession_start source requests, ?_, ?_, ?_⟩
  · intro cursor hcursor
    exact (hstart.reaches (reaches_of_mem_sessionCursors hcursor)).standsIn
  · intro entry hentry item hitem
    exact (passes_of_mem_runSession hentry hitem).liesIn hstart
  · simp
  · intro scanner hscanner
    rw [Scanner.start_eq, Scanner.states_eq] at hscanner
    obtain ⟨cursor, hcursor, rfl⟩ := List.mem_map.mp hscanner
    have hin := hstart.reaches (reaches_of_mem_sessionCursors hcursor)
    exact ⟨hin.standsIn_scanner, hin.standsIn.lookahead_eq_none_iff⟩
  · rw [Scanner.start_eq, Scanner.states_eq, List.pairwise_map]
    refine hpairwise.imp ?_
    intro cursor later hordered
    exact ⟨hordered.1, fun hend => congrArg (·.scanner source) (hordered.2 hend)⟩

theorem session_positions_comment :
    Item.LiesIn (.token ⟨.comment, none, [';', 'b'], 2, 2⟩) ['a', '\n', ';', 'b'] :=
  (session_positions ['a', '\n', ';', 'b'] [.number, .word, .next]).2.2.1 _
    (.tail _ (.tail _ (.head _))) _ List.mem_cons_self

/-- From any point on, a session answers as on a source that begins there, but for places. -/
theorem session_suffix (source : List Char) (before later : List Request) :
    ∃ earlier fresh, (Scanner.start source).runSession before = some earlier ∧
      let scanner := (Scanner.start source).last earlier
      let suffix := source.drop scanner.position
      let moved := fresh.map (Scanner.shiftEntry source scanner.position (scanner.line - 1))
      (Scanner.start suffix).runSession later = some fresh ∧
        scanner = (Scanner.start suffix).shift source scanner.position (scanner.line - 1) ∧
        scanner.runSession later = some moved ∧
        (Scanner.start source).runSession (before ++ later) = some (earlier ++ moved) := by
  obtain ⟨cursor, hend⟩ : ∃ cursor, sessionEnd (Cursor.start source) before = cursor := ⟨_, rfl⟩
  have hin : cursor.IsIn source := by
    rw [← hend]
    exact (Cursor.start_isIn source).reaches (reaches_sessionEnd _ before)
  refine ⟨_, (runSession (Cursor.start (source.drop cursor.offset)) later).map
    (Prod.map id (·.scanner (source.drop cursor.offset))),
    Scanner.runSession_start source before, ?_⟩
  rw [Scanner.start_eq, Scanner.last_eq, hend]
  refine ⟨Scanner.runSession_start _ later, ?_, ?_, ?_⟩
  · rw [Scanner.start_eq]
    exact congrArg (·.scanner source) hin.eq_shift_start
  · rw [Scanner.runSession_eq hin, Scanner.map_runSession_eq hin]
    rfl
  · rw [Scanner.runSession_eq (Cursor.start_isIn source), runSession_append, List.map_append, hend,
      Scanner.map_runSession_eq hin]
    rfl

end IRLexer
