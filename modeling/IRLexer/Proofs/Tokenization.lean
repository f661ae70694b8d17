import IRLexer.Proofs.Outcome
import IRLexer.Stream

/-!
# Token streams and scans

A token stream that is read to its end is the scan of its source, filtered and cut.  Comments are
left out on request; a strict stream stops in front of the first error and fails with it; all else
is passed on as it comes, a fault of the scan included.  The log has a record for every error that
was met, and behind them a summary of the stream unless it failed.
-/

namespace IRLexer

namespace Item

def token? : Item → Option Token
  | .token found => some found
  | .invalid _ => none

def error? : Item → Option CharError
  | .token _ => none
  | .invalid error => some error

@[simp] theorem token?_token (token : Token) : token? (.token token) = some token :=
  rfl

@[simp] theorem token?_invalid (error : CharError) : token? (.invalid error) = none :=
  rfl

@[simp] theorem error?_token (token : Token) : error? (.token token) = none :=
  rfl

@[simp] theorem error?_invalid (error : CharError) : error? (.invalid error) = some error :=
  rfl

end Item

namespace Config

variable {config : Config}

def keeps (config : Config) (item : Item) : Bool :=
  !(config.skipComments && item.isComment)

def reached (config : Config) (items : List Item) : List Item :=
  if config.strict then items.takeWhile fun item => item.error?.isNone else items

def stop? (config : Config) (items : List Item) : Option CharError :=
  if config.strict then items.findSome? Item.error? else none

def failure? (config : Config) (scanned : Scan) : Option Failure :=
  ((config.stop? scanned.items).map fun error => .invalidChar error config.sourceFile).or
    (scanned.fault.map .fault)

def errorsMet (config : Config) (items : List Item) : List CharError :=
  (config.reached items).filterMap Item.error? ++ (config.stop? items).toList

@[simp] theorem reached_nil : config.reached [] = [] := by
  simp [reached]

@[simp] theorem stop?_nil : config.stop? [] = none := by
  simp [stop?]

@[simp] theorem reached_token (token : Token) (items : List Item) :
    config.reached (.token token :: items) = .token token :: config.reached items := by
  unfold reached
  split <;> rfl

@[simp] theorem stop?_token (token : Token) (items : List Item) :
    config.stop? (.token token :: items) = config.stop? items := by
  unfold stop?
  split <;> rfl

theorem reached_invalid_of_strict (h : config.strict = true) (error : CharError)
    (items : List Item) : config.reached (.invalid error :: items) = [] := by
  rw [reached, if_pos h]
  rfl

theorem stop?_invalid_of_strict (h : config.strict = true) (error : CharError)
    (items : List Item) : config.stop? (.invalid error :: items) = some error := by
  rw [stop?, if_pos h]
  rfl

theorem reached_of_not_strict (h : config.strict = false) (items : List Item) :
    config.reached items = items := by
  simp [reached, h]

theorem stop?_of_not_strict (h : config.strict = false) (items : List Item) :
    config.stop? items = none := by
  simp [stop?, h]

end Config

theorem Scan.items_prepend (item : Item) (scanned : Scan) :
    (scanned.prepend item).items = item :: scanned.items :=
  rfl

namespace Config

/-- The stream that a scan is made into, when some tokens and errors have been counted before. -/
def tokenization (config : Config) (tokens errors : Nat) (scanned : Scan) : Tokenization :=
  let items := (config.reached scanned.items).filter config.keeps
  let failure := config.failure? scanned
  {
    items := items
    failure := failure
    log := (config.errorsMet scanned.items).map .invalidChar ++
      if failure = none then
        [.summary config.sourceFile (tokens + (items.filterMap Item.token?).length)
          (errors + (items.filterMap Item.error?).length)]
      else []
  }

variable {config : Config} (tokens errors : Nat) (scanned : Scan)

theorem keeps_eq_false_iff {token : Token} :
    config.keeps (.token token) = false ↔
      config.skipComments = true ∧ token.kind = .comment := by
  simp [keeps, Item.isComment]

theorem tokenization_invalid_of_strict (hstrict : config.strict = true) (error : CharError) :
    config.tokenization tokens errors (scanned.prepend (.invalid error)) =
      ⟨[], some (.invalidChar error config.sourceFile), [.invalidChar error]⟩ := by
  simp [tokenization, Scan.items_prepend, failure?, errorsMet,
    reached_invalid_of_strict hstrict, stop?_invalid_of_strict hstrict]

theorem tokenization_invalid (hstrict : config.strict = false) (error : CharError) :
    config.tokenization tokens errors (scanned.prepend (.invalid error)) =
      let later := config.tokenization tokens (errors + 1) scanned
      ⟨.invalid error :: later.items, later.failure, .invalidChar error :: later.log⟩ := by
  have hfailure : config.failure? (scanned.prepend (.invalid error)) = config.failure? scanned := by
    simp only [failure?, stop?_of_not_strict hstrict]
    rfl
  have hkeeps : config.keeps (.invalid error) = true := by
    simp [keeps, Item.isComment]
  simp [tokenization, hfailure, Scan.items_prepend, errorsMet, reached_of_not_strict hstrict,
    stop?_of_not_strict hstrict, hkeeps, List.filterMap_cons, Nat.add_assoc, Nat.add_comm 1]

theorem tokenization_skipped {token : Token} (hkeeps : config.keeps (.token token) = false) :
    config.tokenization tokens errors (scanned.prepend (.token token)) =
      config.tokenization tokens errors scanned := by
  have hfailure : config.failure? (scanned.prepend (.token token)) = config.failure? scanned := by
    simp only [failure?, Scan.items_prepend, stop?_token]
    rfl
  simp [tokenization, hfailure, Scan.items_prepend, errorsMet, hkeeps, List.filterMap_cons]

theorem tokenization_token {token : Token} (hkeeps : config.keeps (.token token) = true) :
    config.tokenization tokens errors (scanned.prepend (.token token)) =
      let later := config.tokenization (tokens + 1) errors scanned
      ⟨.token token :: later.items, later.failure, later.log⟩ := by
  have hfailure : config.failure? (scanned.prepend (.token token)) = config.failure? scanned := by
    simp only [failure?, Scan.items_prepend, stop?_token]
    rfl
  simp [tokenization, hfailure, Scan.items_prepend, errorsMet, hkeeps, List.filterMap_cons,
    Nat.add_assoc, Nat.add_comm 1]

end Config

/-! ## Pulling and draining -/

namespace Run

variable {run : Run} {lexeme : Lexeme} {after : Cursor}

theorem drain_of_ended {log : List LogRecord} (h : run.pull = ⟨.ended, log⟩) :
    run.drain = ⟨[], none, log⟩ := by
  rw [drain, h]

theorem drain_of_failed {failure : Failure} {log : List LogRecord}
    (h : run.pull = ⟨.failed failure, log⟩) : run.drain = ⟨[], some failure, log⟩ := by
  rw [drain, h]

theorem drain_of_item {item : Item} {next : Run} {log : List LogRecord}
    (h : run.pull = ⟨.item item next, log⟩) :
    run.drain = ⟨item :: next.drain.items, next.drain.failure, log ++ next.drain.log⟩ := by
  rw [drain, h]

theorem drain_congr {other : Run} (h : run.pull = other.pull) : run.drain = other.drain := by
  rw [drain, h, ← drain]

theorem pull_of_lexeme?_eq_none (h : run.cursor.lexeme? = none) :
    run.pull = ⟨.ended, [run.summary]⟩ := by
  rw [pull, h]

theorem pull_of_fault {fault : Fault} (h : run.cursor.lexeme? = some (lexeme, after))
    (hread : lexeme.read = .error fault) : run.pull = ⟨.failed (.fault fault), []⟩ := by
  rw [pull, h]
  simp only [hread]

theorem pull_of_invalid_of_strict {error : CharError}
    (h : run.cursor.lexeme? = some (lexeme, after)) (hread : lexeme.read = .ok (.invalid error))
    (hstrict : run.config.strict = true) :
    run.pull = ⟨.failed (.invalidChar error run.config.sourceFile), [.invalidChar error]⟩ := by
  rw [pull, h]
  simp only [hread, hstrict, if_true]

theorem pull_of_invalid {error : CharError} (h : run.cursor.lexeme? = some (lexeme, after))
    (hread : lexeme.read = .ok (.invalid error)) (hstrict : run.config.strict = false) :
    run.pull =
      ⟨.item (.invalid error) { run with cursor := after, errors := run.errors + 1 },
        [.invalidChar error]⟩ := by
  rw [pull, h]
  simp [hread, hstrict]

theorem pull_of_skipped {token : Token} (h : run.cursor.lexeme? = some (lexeme, after))
    (hread : lexeme.read = .ok (.token token))
    (hkeeps : run.config.keeps (.token token) = false) :
    run.pull = ({ run with cursor := after } : Run).pull := by
  have hskip := Config.keeps_eq_false_iff.mp hkeeps
  rw [pull, h]
  simp only [hread, hskip, and_self, if_true]

theorem pull_of_token {token : Token} (h : run.cursor.lexeme? = some (lexeme, after))
    (hread : lexeme.read = .ok (.token token))
    (hkeeps : run.config.keeps (.token token) = true) :
    run.pull =
      ⟨.item (.token token) { run with cursor := after, tokens := run.tokens + 1 }, []⟩ := by
  have hskip : ¬ (run.config.skipComments = true ∧ token.kind = .comment) := by
    rw [← Config.keeps_eq_false_iff, hkeeps]
    decide
  rw [pull, h]
  simp only [hread, if_neg hskip]

theorem drain_eq_tokenization (cursor : Cursor) (config : Config) (tokens errors : Nat) :
    (Run.mk cursor config tokens errors).drain =
      config.tokenization tokens errors cursor.drain := by
  fun_induction Cursor.drain cursor generalizing tokens errors with
  | case1 cursor hlexeme =>
      rw [drain_of_ended (pull_of_lexeme?_eq_none hlexeme)]
      simp [Config.tokenization, Scan.stopped, Config.failure?, Config.errorsMet, summary]
  | case2 cursor lexeme after hlexeme fault hread =>
      rw [drain_of_failed (pull_of_fault hlexeme hread)]
      simp [Config.tokenization, Scan.stopped, Config.failure?, Config.errorsMet]
  | case3 cursor lexeme after hlexeme item hread ih =>
      cases item with
      | invalid error =>
          cases hstrict : config.strict with
          | true =>
              rw [drain_of_failed (pull_of_invalid_of_strict hlexeme hread hstrict),
                Config.tokenization_invalid_of_strict _ _ _ hstrict]
          | false =>
              rw [drain_of_item (pull_of_invalid hlexeme hread hstrict), ih,
                Config.tokenization_invalid _ _ _ hstrict]
              rfl
      | token token =>
          cases hkeeps : config.keeps (.token token) with
          | false =>
              rw [drain_congr (pull_of_skipped hlexeme hread hkeeps), ih,
                Config.tokenization_skipped _ _ _ hkeeps]
          | true =>
              rw [drain_of_item (pull_of_token hlexeme hread hkeeps), ih,
                Config.tokenization_token _ _ _ hkeeps]
              rfl

end Run

namespace LogRecord

theorem at_append_describeLine (line : Nat) :
    " at " ++ describeLine line = " at line " ++ String.ofList (Decimal.natural line) := by
  have hplace : (" at " : String) ++ "line " = " at line " := by decide
  rw [describeLine, ← String.append_assoc]
  exact congrArg (· ++ String.ofList (Decimal.natural line)) hplace

theorem message_invalidChar (error : CharError) :
    (invalidChar error).message =
      "Invalid character " ++ String.ofList (Quoted.encode [error.char]) ++
        (" at line " ++ String.ofList (Decimal.natural error.line)) := by
  rw [← at_append_describeLine, ← String.append_assoc]
  exact rfl

theorem sourceLabel_eq (sourceFile : Option String) :
    sourceLabel sourceFile = (sourceFile.filter (· ≠ "")).getD "<source>" := by
  cases sourceFile with
  | none => rfl
  | some name =>
      rw [sourceLabel, Option.filter_some]
      by_cases hempty : name = ""
      · subst hempty
        rfl
      · have hshown : name.isEmpty = false := by
          rwa [← Bool.not_eq_true, String.isEmpty_iff]
        rw [hshown, if_neg (by decide), if_pos (by simpa using hempty), Option.getD_some]

theorem message_summary (sourceFile : Option String) (tokens errors : Nat) :
    (summary sourceFile tokens errors).message =
      "Scanned " ++ (sourceFile.filter (· ≠ "")).getD "<source>" ++ ": " ++
        String.ofList (Decimal.natural tokens) ++ " tokens, " ++
        String.ofList (Decimal.natural errors) ++ " errors" := by
  rw [← sourceLabel_eq]
  exact rfl

end LogRecord

/-! ## Streams read to the end -/

theorem tokenize_eq_tokenization (config : Config) (source : List Char) :
    tokenize config source = config.tokenization 0 0 (scan source) :=
  Run.drain_eq_tokenization (Cursor.start source) config 0 0

/--
A stream that is read to its end yields what its configuration keeps of the scan, fails where the
scan does or at the first error that it does not admit, and logs the errors that it met; it logs
its counts exactly if it did not fail.
-/
theorem tokenize_accounts_for_scan (config : Config) (source : List Char) :
    let scanned := scan source
    let stream := tokenize config source
    stream.items = (config.reached scanned.items).filter config.keeps ∧
      stream.failure = ((config.stop? scanned.items).map fun error =>
        .invalidChar error config.sourceFile).or (scanned.fault.map .fault) ∧
      stream.log = (config.errorsMet scanned.items).map .invalidChar ++
        (if stream.failure = none then
          [.summary config.sourceFile (stream.items.filterMap Item.token?).length
            (stream.items.filterMap Item.error?).length]
        else []) ∧
      (∀ error : CharError,
        error.fatal config.sourceFile =
            ⟨describeInvalid [error.char], some error.line, config.sourceFile⟩ ∧
          (LogRecord.invalidChar error).logger = "ctonlex.lexer.core" ∧
          (LogRecord.invalidChar error).message =
            "Invalid character " ++ String.ofList (Quoted.encode [error.char]) ++
              (" at line " ++ String.ofList (Decimal.natural error.line))) ∧
      ∀ tokens errors : Nat,
        (LogRecord.summary config.sourceFile tokens errors).logger = "ctonlex" ∧
          (LogRecord.summary config.sourceFile tokens errors).message =
            "Scanned " ++ (config.sourceFile.filter (· ≠ "")).getD "<source>" ++ ": " ++
              String.ofList (Decimal.natural tokens) ++ " tokens, " ++
              String.ofList (Decimal.natural errors) ++ " errors" := by
  intro scanned stream
  have hstream : stream = config.tokenization 0 0 scanned := tokenize_eq_tokenization config source
  have hlogger : loggerName "lexer.core" = "ctonlex.lexer.core" := by decide
  refine ⟨?_, ?_, ?_, ?_, ?_⟩
  · rw [hstream]
    rfl
  · rw [hstream]
    rfl
  · rw [hstream]
    simp only [Config.tokenization, Nat.zero_add]
  · intro error
    exact ⟨rfl, hlogger, LogRecord.message_invalidChar error⟩
  · intro tokens errors
    exact ⟨rfl, LogRecord.message_summary config.sourceFile tokens errors⟩

end IRLexer
