import IRLexer.Proofs.MaximalRun
import IRLexer.Session

/-!
# Movement of the cursor

Every operation takes the cursor some characters further into the text that is left, and every item
that it yields stands at one of the places passed on the way.  The position, translation and
progress laws all start from these two facts.
-/

namespace IRLexer

namespace Cursor

def Reaches (cursor later : Cursor) : Prop :=
  ∃ count, later = cursor.skip count

theorem Reaches.refl (cursor : Cursor) : cursor.Reaches cursor :=
  ⟨0, cursor.skip_zero.symm⟩

theorem Reaches.trans {first second third : Cursor} (hfirst : first.Reaches second)
    (hsecond : second.Reaches third) : first.Reaches third := by
  obtain ⟨count, rfl⟩ := hfirst
  obtain ⟨further, rfl⟩ := hsecond
  exact ⟨count + further, first.skip_skip count further⟩

theorem reaches_skip (cursor : Cursor) (count : Nat) : cursor.Reaches (cursor.skip count) :=
  ⟨count, rfl⟩

theorem reaches_skipBlanks (cursor : Cursor) : cursor.Reaches cursor.skipBlanks :=
  cursor.reaches_skip _

theorem skip_of_lookahead_eq_none {cursor : Cursor} (h : cursor.lookahead = none) (count : Nat) :
    cursor.skip count = cursor := by
  have hrest : cursor.rest = [] := by simpa [lookahead] using h
  obtain ⟨offset, line, rest⟩ := cursor
  simp_all [skip]

theorem Reaches.eq_of_lookahead_eq_none {cursor later : Cursor} (h : cursor.Reaches later)
    (hend : cursor.lookahead = none) : later = cursor := by
  obtain ⟨count, rfl⟩ := h
  exact skip_of_lookahead_eq_none hend count

theorem Reaches.offset_le {cursor later : Cursor} (h : cursor.Reaches later) :
    cursor.offset ≤ later.offset := by
  obtain ⟨count, rfl⟩ := h
  simp [skip]

theorem Reaches.length_le {cursor later : Cursor} (h : cursor.Reaches later) :
    later.rest.length ≤ cursor.rest.length := by
  obtain ⟨count, rfl⟩ := h
  simp [skip]

theorem rest_of_lookahead {cursor : Cursor} {c : Char} (h : cursor.lookahead = some c) :
    cursor.rest = c :: (cursor.skip 1).rest := by
  obtain ⟨later, hrest⟩ := List.head?_eq_some_iff.mp h
  rw [rest_skip, hrest]
  rfl

theorem IsIn.reaches {cursor later : Cursor} {source : List Char} (hin : cursor.IsIn source)
    (h : cursor.Reaches later) : later.IsIn source := by
  obtain ⟨count, rfl⟩ := h
  exact hin.skip count

theorem newline_not_mem_restOfLine (cursor : Cursor) : '\n' ∉ cursor.restOfLine := by
  intro h
  have hne := List.mem_takeWhile_imp h
  simp at hne

theorem restOfLine_append_rest_toLineEnd (cursor : Cursor) :
    cursor.restOfLine ++ cursor.toLineEnd.rest = cursor.rest :=
  List.takeWhile_append_dropWhile

theorem lookahead_toLineEnd (cursor : Cursor) :
    cursor.toLineEnd.lookahead = some '\n' ∨ cursor.toLineEnd.lookahead = none := by
  have hfails := List.head?_dropWhile_not (fun c => decide (c ≠ '\n')) cursor.rest
  cases hahead : cursor.toLineEnd.lookahead with
  | none => exact .inr rfl
  | some c =>
      have hhead : (cursor.rest.dropWhile fun c => decide (c ≠ '\n')).head? = some c := hahead
      rw [hhead] at hfails
      simpa using hfails

theorem toLineEnd_eq_skip (cursor : Cursor) :
    cursor.toLineEnd = cursor.skip cursor.restOfLine.length := by
  have hcount : cursor.restOfLine.count '\n' = 0 :=
    List.count_eq_zero.mpr cursor.newline_not_mem_restOfLine
  have htake : cursor.rest.take cursor.restOfLine.length = cursor.restOfLine :=
    take_length_takeWhile _ _
  have hdrop : cursor.rest.drop cursor.restOfLine.length = cursor.rest.dropWhile (· ≠ '\n') :=
    drop_length_takeWhile _ _
  simp [toLineEnd, lineEnd, skip, htake, hdrop, hcount]

theorem reaches_toLineEnd (cursor : Cursor) : cursor.Reaches cursor.toLineEnd :=
  ⟨_, cursor.toLineEnd_eq_skip⟩

end Cursor

/-- The item starts at the cursor, on its line, and is made of the characters that come next. -/
def Item.StandsAt (item : Item) (cursor : Cursor) : Prop :=
  match item with
  | .token found =>
      found.start = cursor.offset ∧ found.line = cursor.line ∧ found.text <+: cursor.rest
  | .invalid error =>
      error.offset = cursor.offset ∧ error.line = cursor.line ∧
        cursor.lookahead = some error.char

def Cursor.Passes (cursor : Cursor) (item : Item) : Prop :=
  ∃ place, cursor.Reaches place ∧ item.StandsAt place

theorem Cursor.Passes.of_reaches {cursor later : Cursor} {item : Item}
    (hreach : cursor.Reaches later) (h : later.Passes item) : cursor.Passes item := by
  obtain ⟨place, hplace, hstands⟩ := h
  exact ⟨place, hreach.trans hplace, hstands⟩

theorem Form.eq_of_starting_eq_stray {first char : Char} {later : List Char}
    (h : starting first later = .stray char) : first = char := by
  unfold starting at h
  split at h
  · contradiction
  · split at h
    · contradiction
    · repeat' split at h
      all_goals simp_all

namespace Lexeme

theorem token_standsAt (cursor : Cursor) (form : Form) (count : Nat) (kind : Kind)
    (payload : Option Payload) :
    Item.StandsAt (.token ((cursor.cut form count).1.token kind payload)) cursor :=
  ⟨rfl, rfl, List.take_prefix count cursor.rest⟩

theorem readWord_standsAt {cursor : Cursor} {form : Form} {count : Nat} {token : Token}
    (h : (cursor.cut form count).1.readWord = .ok token) :
    Item.StandsAt (.token token) cursor := by
  obtain ⟨meaning, -, rfl⟩ := readWord_eq_ok_iff.mp h
  exact token_standsAt cursor form count _ _

theorem read_standsAt {cursor : Cursor} {first : Char} {later : List Char} {count : Nat}
    {item : Item} (hrest : cursor.rest = first :: later)
    (h : (cursor.cut (Form.starting first later) count).1.read = .ok item) :
    item.StandsAt cursor := by
  cases hform : Form.starting first later with
  | word =>
      rw [hform] at h
      simp only [read, Cursor.cut] at h
      have hread : (cursor.cut .word count).1.read = .ok item := h
      obtain ⟨token, hword, rfl⟩ := (read_eq_ok_iff_of_word rfl).mp hread
      exact readWord_standsAt hword
  | stray char =>
      rw [hform] at h
      simp only [read, Cursor.cut, Except.ok.injEq] at h
      rw [← h]
      refine ⟨rfl, rfl, ?_⟩
      simp [Cursor.lookahead, hrest, Form.eq_of_starting_eq_stray hform]
  | comment | punctuation kind | arrow | number =>
      rw [hform] at h
      simp only [read, Cursor.cut, Except.ok.injEq] at h
      rw [← h]
      exact token_standsAt cursor .comment count _ _

end Lexeme

/-! ## What an operation does -/

namespace Cursor

theorem eq_cut_of_lexeme? {cursor after : Cursor} {lexeme : Lexeme}
    (h : cursor.lexeme? = some (lexeme, after)) :
    ∃ first later, cursor.skipBlanks.rest = first :: later ∧
      (lexeme, after) = cursor.skipBlanks.cut (Form.starting first later)
        ((Form.starting first later).extent (first :: later)) := by
  unfold lexeme? at h
  split at h
  · contradiction
  · next first later hrest =>
      exact ⟨first, later, hrest, (Option.some.inj h).symm⟩

theorem reaches_of_lexeme? {cursor after : Cursor} {lexeme : Lexeme}
    (h : cursor.lexeme? = some (lexeme, after)) : cursor.Reaches after := by
  obtain ⟨first, later, -, hcut⟩ := eq_cut_of_lexeme? h
  have hafter : after = cursor.skipBlanks.skip _ := (Prod.mk.inj hcut).2
  rw [hafter]
  exact cursor.reaches_skipBlanks.trans (reaches_skip _ _)

theorem passes_of_read {cursor after : Cursor} {lexeme : Lexeme} {item : Item}
    (h : cursor.lexeme? = some (lexeme, after)) (hread : lexeme.read = .ok item) :
    cursor.Passes item := by
  obtain ⟨first, later, hrest, hcut⟩ := eq_cut_of_lexeme? h
  have hlexeme := (Prod.mk.inj hcut).1
  rw [hlexeme] at hread
  exact ⟨cursor.skipBlanks, cursor.reaches_skipBlanks, Lexeme.read_standsAt hrest hread⟩

theorem reaches_next (cursor : Cursor) : cursor.Reaches cursor.next.2 := by
  unfold next
  cases hlexeme : cursor.lexeme? with
  | none => exact cursor.reaches_skipBlanks
  | some found => exact reaches_of_lexeme? hlexeme

theorem exists_read_of_next {cursor : Cursor} {item : Item}
    (h : cursor.next.1 = .ok (some item)) :
    ∃ lexeme after, cursor.lexeme? = some (lexeme, after) ∧ lexeme.read = .ok item := by
  unfold next at h
  cases hlexeme : cursor.lexeme? with
  | none => simp [hlexeme] at h
  | some found =>
      obtain ⟨lexeme, after⟩ := found
      refine ⟨lexeme, after, rfl, ?_⟩
      cases hread : lexeme.read with
      | error fault => simp [hlexeme, hread, Except.map] at h
      | ok read => simpa [hlexeme, hread, Except.map] using h

theorem passes_of_next {cursor : Cursor} {item : Item} (h : cursor.next.1 = .ok (some item)) :
    cursor.Passes item := by
  obtain ⟨lexeme, after, hlexeme, hread⟩ := exists_read_of_next h
  exact passes_of_read hlexeme hread

theorem reaches_word (cursor : Cursor) : cursor.Reaches cursor.word.2 := by
  unfold word
  split
  · exact .refl cursor
  · split
    · exact cursor.reaches_skip _
    · exact .refl cursor

theorem passes_of_word {cursor : Cursor} {token : Token} (h : cursor.word.1 = .ok token) :
    cursor.Passes (.token token) := by
  unfold word at h
  split at h
  · contradiction
  · split at h
    · exact ⟨cursor, .refl cursor, Lexeme.readWord_standsAt h⟩
    · contradiction

theorem passes_number (cursor : Cursor) : cursor.Passes (.token cursor.number.1) :=
  ⟨cursor, .refl cursor, Lexeme.token_standsAt cursor .number _ _ _⟩

theorem passes_comment (cursor : Cursor) : cursor.Passes (.token cursor.comment.1) :=
  ⟨cursor, .refl cursor, Lexeme.token_standsAt cursor .comment _ _ _⟩

theorem reaches_chars (cursor : Cursor) (count : Nat) (kind : Kind) :
    cursor.Reaches (cursor.chars count kind).2 := by
  unfold chars
  split
  · exact cursor.reaches_skip count
  · exact cursor.reaches_skip count

theorem passes_of_chars {cursor : Cursor} {count : Nat} {kind : Kind} {token : Token}
    (h : (cursor.chars count kind).1 = .ok token) : cursor.Passes (.token token) := by
  unfold chars at h
  split at h
  · rw [← Except.ok.inj h]
    exact ⟨cursor, .refl cursor, rfl, rfl, List.take_prefix count cursor.rest⟩
  · contradiction

theorem reaches_take (cursor : Cursor) (limit : Nat) :
    cursor.Reaches (cursor.take limit).cursor := by
  induction limit generalizing cursor with
  | zero => exact .refl cursor
  | succ limit ih =>
      have hnext := cursor.reaches_next
      unfold take
      split <;> rename_i after hresult
      · rwa [hresult] at hnext
      · rwa [hresult] at hnext
      · rw [hresult] at hnext
        exact hnext.trans (ih _)

theorem passes_of_mem_take {cursor : Cursor} {limit : Nat} {item : Item}
    (h : item ∈ (cursor.take limit).items) : cursor.Passes item := by
  induction limit generalizing cursor with
  | zero => simp [take, Scan.stopped] at h
  | succ limit ih =>
      have hnext := cursor.reaches_next
      unfold take at h
      split at h
      · simp [Scan.stopped] at h
      · simp [Scan.stopped] at h
      · next found after hresult =>
          rw [hresult] at hnext
          rcases List.mem_cons.mp h with rfl | hlater
          · exact passes_of_next (by rw [hresult])
          · exact (ih hlater).of_reaches hnext

theorem drain_eq_next (cursor : Cursor) :
    cursor.drain =
      match cursor.next with
      | (.error fault, after) => .stopped after (some fault)
      | (.ok none, after) => .stopped after none
      | (.ok (some item), after) => after.drain.prepend item := by
  rw [drain]
  split
  · next hlexeme => simp [next, hlexeme]
  · next lexeme after hlexeme =>
      cases hread : lexeme.read <;> simp [next, hlexeme, hread, Except.map]

theorem reaches_drain (cursor : Cursor) : cursor.Reaches cursor.drain.cursor := by
  fun_induction drain cursor with
  | case1 cursor hlexeme => exact cursor.reaches_skipBlanks
  | case2 cursor lexeme after hlexeme fault hread => exact reaches_of_lexeme? hlexeme
  | case3 cursor lexeme after hlexeme item hread ih => exact (reaches_of_lexeme? hlexeme).trans ih

theorem passes_of_mem_drain {cursor : Cursor} {item : Item} (h : item ∈ cursor.drain.items) :
    cursor.Passes item := by
  fun_induction drain cursor with
  | case1 cursor hlexeme => simp [Scan.stopped] at h
  | case2 cursor lexeme after hlexeme fault hread => simp [Scan.stopped] at h
  | case3 cursor lexeme after hlexeme found hread ih =>
      rcases List.mem_cons.mp h with rfl | hlater
      · exact passes_of_read hlexeme hread
      · exact (ih hlater).of_reaches (reaches_of_lexeme? hlexeme)

end Cursor

/-! ## Requests -/

/-- The tokens and errors that a request answers; a request that meets a fault answers none. -/
def answeredItems : Except Fault Reply → List Item
  | .ok (.item found) => found.toList
  | .ok (.items found) => found
  | _ => []

theorem mem_items_of_mem_answeredItems {scan : Scan} {item : Item}
    (h : item ∈ answeredItems scan.reply) : item ∈ scan.items := by
  unfold Scan.reply at h
  split at h
  · simp [answeredItems] at h
  · exact h

namespace Request

theorem reaches_run (cursor : Cursor) (request : Request) :
    cursor.Reaches (request.run cursor).2 := by
  cases request with
  | next => exact cursor.reaches_next
  | restOfLine => exact cursor.reaches_toLineEnd
  | drain => exact cursor.reaches_drain
  | take limit => exact cursor.reaches_take limit
  | advance => exact cursor.reaches_skip 1
  | lookingAt expected => exact .refl cursor
  | lineEnd => exact .refl cursor
  | word => exact cursor.reaches_word
  | number => exact cursor.reaches_skip _
  | comment => exact cursor.reaches_skip _
  | chars count kind => exact cursor.reaches_chars count.toNat kind

theorem passes_of_mem_run {cursor : Cursor} {request : Request} {item : Item}
    (h : item ∈ answeredItems (request.run cursor).1) : cursor.Passes item := by
  cases request with
  | next =>
      cases hresult : cursor.next.1 with
      | error fault => simp [run, hresult, Except.map, answeredItems] at h
      | ok found =>
          have hfound : found = some item := by
            simpa [run, hresult, Except.map, answeredItems] using h
          exact Cursor.passes_of_next (hresult.trans (by rw [hfound]))
  | drain => exact Cursor.passes_of_mem_drain (mem_items_of_mem_answeredItems h)
  | take limit => exact Cursor.passes_of_mem_take (mem_items_of_mem_answeredItems h)
  | word =>
      cases hresult : cursor.word.1 with
      | error fault => simp [run, hresult, Except.map, answeredItems] at h
      | ok token =>
          have hitem : item = .token token := by
            simpa [run, hresult, Except.map, answeredItems, Reply.token] using h
          rw [hitem]
          exact Cursor.passes_of_word hresult
  | number =>
      have hitem : item = .token cursor.number.1 := by
        simpa [run, answeredItems, Reply.token] using h
      rw [hitem]
      exact cursor.passes_number
  | comment =>
      have hitem : item = .token cursor.comment.1 := by
        simpa [run, answeredItems, Reply.token] using h
      rw [hitem]
      exact cursor.passes_comment
  | chars count kind =>
      cases hresult : (cursor.chars count.toNat kind).1 with
      | error fault => simp [run, hresult, Except.map, answeredItems] at h
      | ok token =>
          have hitem : item = .token token := by
            simpa [run, hresult, Except.map, answeredItems, Reply.token] using h
          rw [hitem]
          exact Cursor.passes_of_chars hresult
  | restOfLine | advance | lookingAt expected | lineEnd => simp [run, answeredItems] at h

end Request

end IRLexer
