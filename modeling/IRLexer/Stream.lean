import IRLexer.Config
import IRLexer.LexError
import IRLexer.Log
import IRLexer.Scan

/-!
# Token streams

A token stream reads its source on demand.  It takes on a configuration when it is first pulled,
unless it was opened with one, and keeps that configuration to its end.  Once a stream has ended,
failed or been closed, nothing more comes from it.
-/

namespace IRLexer

structure Run where
  cursor : Cursor
  config : Config
  tokens : Nat := 0
  errors : Nat := 0
  deriving DecidableEq, Repr

inductive Pulled
  | item (item : Item) (next : Run)
  | failed (failure : Failure)
  | ended
  deriving DecidableEq, Repr

structure Pull where
  result : Pulled
  log : List LogRecord
  deriving DecidableEq, Repr

namespace Run

def start (source : List Char) (config : Config) : Run where
  cursor := .start source
  config := config

def summary (run : Run) : LogRecord :=
  .summary run.config.sourceFile run.tokens run.errors

/-- The next item that the configuration lets through.  Skipped comments are not counted. -/
def pull (run : Run) : Pull :=
  match _h : run.cursor.lexeme? with
  | none => ⟨.ended, [run.summary]⟩
  | some (lexeme, after) =>
      match lexeme.read with
      | .error fault => ⟨.failed (.fault fault), []⟩
      | .ok (.invalid error) =>
          if run.config.strict then
            ⟨.failed (.invalidChar error run.config.sourceFile), [.invalidChar error]⟩
          else
            ⟨.item (.invalid error) { run with cursor := after, errors := run.errors + 1 },
              [.invalidChar error]⟩
      | .ok (.token token) =>
          if run.config.skipComments ∧ token.kind = .comment then
            pull { run with cursor := after }
          else
            ⟨.item (.token token) { run with cursor := after, tokens := run.tokens + 1 }, []⟩
termination_by run.cursor.rest.length
decreasing_by exact Cursor.rest_lt_of_lexeme? _h

theorem rest_lt_of_pull {run next : Run} {item : Item}
    (h : run.pull.result = .item item next) :
    next.cursor.rest.length < run.cursor.rest.length := by
  fun_induction pull run with
  | case1 => simp at h
  | case2 => simp at h
  | case3 => simp at h
  | case4 run lexeme after found error _ _ =>
      simp only [Pulled.item.injEq] at h
      rw [← h.2]
      exact Cursor.rest_lt_of_lexeme? found
  | case5 run lexeme after found token _ _ ih =>
      exact Nat.lt_trans (ih h) (Cursor.rest_lt_of_lexeme? found)
  | case6 run lexeme after found token _ _ =>
      simp only [Pulled.item.injEq] at h
      rw [← h.2]
      exact Cursor.rest_lt_of_lexeme? found

end Run

/-! ## Reading to the end -/

structure Tokenization where
  items : List Item
  failure : Option Failure
  log : List LogRecord
  deriving DecidableEq, Repr

def Run.drain (run : Run) : Tokenization :=
  match _h : run.pull with
  | ⟨.ended, log⟩ => ⟨[], none, log⟩
  | ⟨.failed failure, log⟩ => ⟨[], some failure, log⟩
  | ⟨.item item next, log⟩ =>
      let later := next.drain
      ⟨item :: later.items, later.failure, log ++ later.log⟩
termination_by run.cursor.rest.length
decreasing_by exact Run.rest_lt_of_pull (congrArg Pull.result _h)

def tokenize (config : Config) (source : List Char) : Tokenization :=
  (Run.start source config).drain

inductive Stream
  | waiting (source : List Char) (config : Option Config)
  | running (run : Run)
  | finished
  deriving DecidableEq, Repr

namespace Stream

def run? (current : Config) : Stream → Option Run
  | waiting source config => some (Run.start source (config.getD current))
  | running run => some run
  | finished => none

def pull (current : Config) (stream : Stream) : Pull :=
  match stream.run? current with
  | some run => run.pull
  | none => ⟨.ended, []⟩

end Stream

def Pulled.stream : Pulled → Stream
  | item _ next => .running next
  | failed _ | ended => .finished

end IRLexer
