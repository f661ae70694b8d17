import IRLexer.Proofs.Locality
import IRLexer.Proofs.Outcome

/-!
# Layout

The items of a scan can be laid out again: their texts in a row, with blanks of any sort and number
between them and a line feed behind every comment.  Scanning the new source yields the same items,
each at its new place, so that the blanks of a source say nothing but where its items stand.
-/

namespace IRLexer

namespace Item

def text : Item → List Char
  | .token found => found.text
  | .invalid error => [error.char]

def placedAt (start line : Nat) : Item → Item
  | .token found => .token { found with start := start, line := line }
  | .invalid error => .invalid { error with offset := start, line := line }

/-- The text of the item is a lexeme that is read as the item, wherever it stands. -/
def IsReadFromText (item : Item) : Prop :=
  ∃ form : Form, form.IsLexeme item.text ∧ (form = .comment → item.isComment = true) ∧
    ∀ start line, Lexeme.read ⟨form, item.text, start, line⟩ = .ok (item.placedAt start line)

end Item

/-- The items that a scan of the source yields when it goes on behind every fault. -/
def scannedItems (source : List Char) : List Item :=
  (Cursor.start source).outcomes.filterMap ScanOutcome.item?

namespace Lexeme

variable {lexeme : Lexeme} {item : Item}

theorem read_placedAt (h : lexeme.read = .ok item) (start line : Nat) :
    Lexeme.read ⟨lexeme.form, lexeme.text, start, line⟩ = .ok (item.placedAt start line) := by
  obtain ⟨form, text, place, placeLine⟩ := lexeme
  cases form with
  | word =>
      obtain ⟨token, hword, rfl⟩ := (read_eq_ok_iff_of_word rfl).mp h
      obtain ⟨meaning, hmeaning, rfl⟩ := readWord_eq_ok_iff.mp hword
      refine (read_eq_ok_iff_of_word rfl).mpr ⟨_, ?_, rfl⟩
      exact readWord_eq_ok_iff.mpr ⟨meaning, hmeaning, rfl⟩
  | comment | punctuation kind | arrow | number | stray char =>
      rw [← Except.ok.inj h]
      rfl

theorem text_of_read (hlexeme : lexeme.form.IsLexeme lexeme.text) (h : lexeme.read = .ok item) :
    item.text = lexeme.text := by
  obtain ⟨form, text, place, placeLine⟩ := lexeme
  cases form with
  | word =>
      obtain ⟨token, hword, rfl⟩ := (read_eq_ok_iff_of_word rfl).mp h
      obtain ⟨meaning, -, rfl⟩ := readWord_eq_ok_iff.mp hword
      rfl
  | stray char =>
      obtain ⟨first, rest, hwhole, -, hstarting, hextent⟩ := hlexeme [] (Form.endsBefore_nil _)
      have hlength : 1 = text.length := hextent
      obtain ⟨c, rfl⟩ := List.length_eq_one_iff.mp hlength.symm
      rw [← Except.ok.inj h, ← Form.eq_of_starting_eq_stray hstarting]
      rw [(List.cons.inj hwhole).1]
      rfl
  | comment | punctuation kind | arrow | number =>
      rw [← Except.ok.inj h]
      rfl

theorem isReadFromText_of_read (hlexeme : lexeme.form.IsLexeme lexeme.text)
    (h : lexeme.read = .ok item) : item.IsReadFromText := by
  have htext := text_of_read hlexeme h
  refine ⟨lexeme.form, ?_, ?_, ?_⟩
  · rwa [htext]
  · intro hform
    simp only [read, hform, Except.ok.injEq] at h
    rw [← h]
    rfl
  · intro start line
    rw [htext]
    exact read_placedAt h start line

end Lexeme

namespace Cursor

theorem isLexeme_of_lexeme? {cursor after : Cursor} {lexeme : Lexeme}
    (h : cursor.lexeme? = some (lexeme, after)) : lexeme.form.IsLexeme lexeme.text := by
  obtain ⟨first, later, hrest, hcut⟩ := eq_cut_of_lexeme? h
  have hlexeme := Form.isLexeme_take (not_blank_of_rest_skipBlanks hrest) later
  obtain ⟨rfl, -⟩ := Prod.mk.inj hcut
  simp only [hrest]
  exact hlexeme

theorem isReadFromText_of_mem_outcomes {cursor : Cursor} {item : Item}
    (h : .item item ∈ cursor.outcomes) : item.IsReadFromText := by
  fun_induction lexemes cursor with
  | case1 cursor hlexeme =>
      rw [outcomes_of_lexeme?_eq_none hlexeme] at h
      contradiction
  | case2 cursor lexeme after hlexeme ih =>
      rw [outcomes_of_lexeme? hlexeme] at h
      rcases List.mem_cons.mp h with hfirst | hlater
      · cases hread : lexeme.read with
        | error fault => simp [Lexeme.outcome, hread] at hfirst
        | ok found =>
            have hfound : item = found := by simpa [Lexeme.outcome, hread] using hfirst
            rw [hfound]
            exact Lexeme.isReadFromText_of_read (isLexeme_of_lexeme? hlexeme) hread
      · exact ih hlater

/-! ## Laid-out sources -/

def behind (before rest : List Char) : Cursor where
  offset := before.length
  line := 1 + before.count '\n'
  rest := rest

theorem skip_behind (before text rest : List Char) :
    (behind before (text ++ rest)).skip text.length = behind (before ++ text) rest := by
  simp only [behind, skip, List.take_left, List.drop_left, List.length_append, List.count_append,
    Nat.add_assoc]

theorem skipBlanks_behind {gap rest : List Char} (hgap : ∀ c ∈ gap, isBlank c = true)
    (hrest : ∀ c, rest.head? = some c → isBlank c = false) (before : List Char) :
    (behind before (gap ++ rest)).skipBlanks = behind (before ++ gap) rest := by
  have htake : (behind before (gap ++ rest)).rest.takeWhile isBlank = gap :=
    takeWhile_append_of_head hgap hrest
  rw [skipBlanks, skipWhile, htake, skip_behind]

theorem lexeme?_behind {form : Form} {gap text later : List Char} (hlexeme : form.IsLexeme text)
    (hgap : ∀ c ∈ gap, isBlank c = true) (hlater : form.EndsBefore later) (before : List Char) :
    (behind before (gap ++ (text ++ later))).lexeme? =
      some (⟨form, text, (before ++ gap).length, 1 + (before ++ gap).count '\n'⟩,
        behind (before ++ gap ++ text) later) := by
  have hbefore := hlexeme.before hlater
  have hfound := (behind before []).lexeme?_withRest_append hgap hbefore
  simpa [behind, withRest, hbefore.count_newline, Nat.add_assoc] using hfound

end Cursor

def layOut (front : List Char) : List (Item × List Char) → List Char
  | [] => front
  | (item, gap) :: later => front ++ (item.text ++ layOut gap later)

def placedItems (before : List Char) : List (Item × List Char) → List Item
  | [] => []
  | (item, gap) :: later =>
      item.placedAt before.length (1 + before.count '\n') ::
        placedItems (before ++ item.text ++ gap) later

/-- Only blanks lie around the items, some between any two, and a line feed ends a comment. -/
structure IsLayout (front : List Char) (placed : List (Item × List Char)) : Prop where
  front_blank : ∀ c ∈ front, isBlank c = true
  gap_blank : ∀ entry ∈ placed, ∀ c ∈ entry.2, isBlank c = true
  gap_ne_nil : ∀ entry ∈ placed.dropLast, entry.2 ≠ []
  gap_of_comment : ∀ entry ∈ placed, entry.1.isComment = true →
    entry.2.head? = some '\n' ∨ entry.2 = []

namespace IsLayout

variable {front gap : List Char} {item : Item} {placed : List (Item × List Char)}

theorem tail (h : IsLayout front ((item, gap) :: placed)) : IsLayout gap placed where
  front_blank := h.gap_blank (item, gap) List.mem_cons_self
  gap_blank := by
    intro entry hentry
    exact h.gap_blank entry (List.mem_cons_of_mem _ hentry)
  gap_ne_nil := by
    intro entry hentry
    cases placed with
    | nil => contradiction
    | cons next later =>
        exact h.gap_ne_nil entry (List.mem_cons_of_mem _ hentry)
  gap_of_comment := by
    intro entry hentry
    exact h.gap_of_comment entry (List.mem_cons_of_mem _ hentry)

theorem endsBefore (h : IsLayout front ((item, gap) :: placed)) {form : Form}
    (hform : form = .comment → item.isComment = true) : form.EndsBefore (layOut gap placed) := by
  intro c hhead
  cases gap with
  | nil =>
      cases placed with
      | nil => simp [layOut] at hhead
      | cons next later =>
          have hgap := h.gap_ne_nil (item, []) (by rw [List.dropLast_cons_cons]; exact .head _)
          exact absurd rfl hgap
  | cons first gap =>
      have hfirst : first = c := by
        cases placed <;> simpa [layOut] using hhead
      subst hfirst
      refine ⟨h.gap_blank _ List.mem_cons_self first List.mem_cons_self, ?_⟩
      intro hcomment
      have hgap := h.gap_of_comment _ List.mem_cons_self (hform hcomment)
      simpa using hgap

end IsLayout

theorem Cursor.drain_behind_layOut {front : List Char} {placed : List (Item × List Char)}
    (hread : ∀ entry ∈ placed, entry.1.IsReadFromText) (hlayout : IsLayout front placed)
    (before : List Char) :
    (behind before (layOut front placed)).drain =
      ⟨placedItems (before ++ front) placed, none, behind (before ++ layOut front placed) []⟩ := by
  induction placed generalizing front before with
  | nil =>
      have hblanks : (behind before (front ++ [])).skipBlanks = behind (before ++ front) [] :=
        skipBlanks_behind hlayout.front_blank (by simp) before
      have hnone : (behind before front).lexeme? = none := by
        rw [List.append_nil] at hblanks
        rw [lexeme?, hblanks]
        rfl
      rw [List.append_nil] at hblanks
      rw [layOut, drain_eq_next, next_of_lexeme?_eq_none hnone, hblanks]
      rfl
  | cons entry later ih =>
      obtain ⟨item, gap⟩ := entry
      obtain ⟨form, hlexeme, hform, hitem⟩ := hread (item, gap) List.mem_cons_self
      have hfound := lexeme?_behind hlexeme hlayout.front_blank (hlayout.endsBefore hform) before
      have hlater : ∀ entry ∈ later, entry.1.IsReadFromText := by
        intro entry hentry
        exact hread entry (List.mem_cons_of_mem _ hentry)
      rw [layOut, drain_eq_next, next_of_lexeme? hfound, hitem]
      simp only [Except.map, ih hlater hlayout.tail, placedItems, Scan.prepend, List.append_assoc]

theorem Cursor.items_prefix_outcomes (cursor : Cursor) :
    cursor.drain.items <+: cursor.outcomes.filterMap ScanOutcome.item? := by
  fun_induction drain cursor with
  | case1 cursor hlexeme => exact List.nil_prefix
  | case2 cursor lexeme after hlexeme fault hread => exact List.nil_prefix
  | case3 cursor lexeme after hlexeme item hread ih =>
      have houtcome : lexeme.outcome = .item item := by simp [Lexeme.outcome, hread]
      rw [outcomes_of_lexeme? hlexeme, houtcome]
      exact List.cons_prefix_cons.mpr ⟨rfl, ih⟩

theorem isReadFromText_of_mem_scannedItems {source : List Char} {item : Item}
    (h : item ∈ scannedItems source) : item.IsReadFromText := by
  obtain ⟨outcome, houtcome, hitem⟩ := List.mem_filterMap.mp h
  cases outcome with
  | item found =>
      rw [← Option.some.inj hitem]
      exact Cursor.isReadFromText_of_mem_outcomes houtcome
  | fault fault start stop => contradiction

/--
Items of a scan, in any selection and order, are scanned again wherever blanks keep them apart.
One token by itself is the smallest layout.
-/
theorem scan_layOut (source : List Char) :
    (scan source).items <+: scannedItems source ∧
      (∀ (front : List Char) (placed : List (Item × List Char)),
        placed.map Prod.fst ⊆ scannedItems source → IsLayout front placed →
          scan (layOut front placed) =
            ⟨placedItems front placed, none, .behind (layOut front placed) []⟩) ∧
      ∀ token : Token, .token token ∈ scannedItems source →
        scan token.text =
          ⟨[.token { token with start := 0, line := 1 }], none, .behind token.text []⟩ := by
  have hlayOut (front : List Char) (placed : List (Item × List Char))
      (hitems : placed.map Prod.fst ⊆ scannedItems source) (hlayout : IsLayout front placed) :
      scan (layOut front placed) =
        ⟨placedItems front placed, none, .behind (layOut front placed) []⟩ := by
    have hread : ∀ entry ∈ placed, entry.1.IsReadFromText := by
      intro entry hentry
      exact isReadFromText_of_mem_scannedItems (hitems (List.mem_map_of_mem hentry))
    exact Cursor.drain_behind_layOut hread hlayout []
  refine ⟨Cursor.items_prefix_outcomes _, hlayOut, ?_⟩
  intro token htoken
  have halone : IsLayout [] [(.token token, [])] := by
    constructor <;> simp
  have hscan := hlayOut [] [(.token token, [])] (by simpa using htoken) halone
  simpa [layOut, placedItems, Item.text, Item.placedAt] using hscan

theorem scan_layOut_comment :
    scan ['\t', ';', '\n', 'v', '1'] =
      ⟨[.token ⟨.comment, none, [';'], 1, 1⟩,
          .token ⟨.value, some (.value .direct 1), ['v', '1'], 3, 2⟩],
        none, ⟨5, 2, []⟩⟩ := by
  have hword : (Cursor.start ['v', '1', ';']).lexeme? =
      some (⟨.word, ['v', '1'], 0, 1⟩, ⟨2, 1, [';']⟩) := by decide
  have hcomment : Cursor.lexeme? ⟨2, 1, [';']⟩ = some (⟨.comment, [';'], 2, 1⟩, ⟨3, 1, []⟩) := rfl
  have hend : Cursor.lexeme? ⟨3, 1, []⟩ = none := rfl
  have hitems : scannedItems ['v', '1', ';'] =
      [.token ⟨.value, some (.value .direct 1), ['v', '1'], 0, 1⟩,
        .token ⟨.comment, none, [';'], 2, 1⟩] := by
    rw [scannedItems, Cursor.outcomes_of_lexeme? hword, Cursor.outcomes_of_lexeme? hcomment,
      Cursor.outcomes_of_lexeme?_eq_none hend]
    decide
  have hscan := (scan_layOut ['v', '1', ';']).2.1 ['\t']
    [(.token ⟨.comment, none, [';'], 2, 1⟩, ['\n']),
      (.token ⟨.value, some (.value .direct 1), ['v', '1'], 0, 1⟩, [])]
  rw [hitems] at hscan
  have htab : isBlank '\t' = true := by decide
  have hfeed : isBlank '\n' = true := by decide
  exact hscan (by decide) ⟨by simpa using htab, by simpa using hfeed, by decide, by decide⟩

end IRLexer
