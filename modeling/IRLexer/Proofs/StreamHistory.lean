import IRLexer.Program
import IRLexer.Proofs.Tokenization

/-!
# The history of a stream

Pulling a stream until nothing is left gives its history, a finite list of pulls.  The history holds
what reading the stream to its end at once gives: the same items and then the same failure, the same
log.  Once a stream is running no configuration has a part in its pulls, so that any number of them
is an initial part of the history, followed by pulls that find nothing.
-/

namespace IRLexer

def Pull.nothing : Pull :=
  ⟨.ended, []⟩

def Pull.answer (pull : Pull) : Outcome × List LogRecord :=
  (pull.result.outcome, pull.log)

def Tokenization.ending (stream : Tokenization) : Outcome :=
  match stream.failure with
  | some failure => .failed failure
  | none => .pulled none

/-- The answers to a number of pulls: the items, the failure if there is one, and nothing more. -/
def Tokenization.answers (stream : Tokenization) (count : Nat) : List Outcome :=
  (stream.items.map (fun item => Outcome.pulled (some item)) ++
    stream.ending :: List.replicate count (Outcome.pulled none)).take count

namespace Run

def history (run : Run) : List Pull :=
  match _h : run.pull with
  | ⟨.item item next, log⟩ => ⟨.item item next, log⟩ :: next.history
  | ⟨.failed failure, log⟩ => [⟨.failed failure, log⟩]
  | ⟨.ended, log⟩ => [⟨.ended, log⟩]
termination_by run.cursor.rest.length
decreasing_by exact rest_lt_of_pull (congrArg Pull.result _h)

def pulls (run : Run) (count : Nat) : List Pull :=
  (run.history ++ List.replicate count Pull.nothing).take count

variable {run : Run}

theorem history_of_item {item : Item} {next : Run} {log : List LogRecord}
    (h : run.pull = ⟨.item item next, log⟩) :
    run.history = ⟨.item item next, log⟩ :: next.history := by
  rw [history, h]

theorem history_of_failed {failure : Failure} {log : List LogRecord}
    (h : run.pull = ⟨.failed failure, log⟩) : run.history = [⟨.failed failure, log⟩] := by
  rw [history, h]

theorem history_of_ended {log : List LogRecord} (h : run.pull = ⟨.ended, log⟩) :
    run.history = [⟨.ended, log⟩] := by
  rw [history, h]

theorem length_history (run : Run) : run.history.length = run.drain.items.length + 1 := by
  fun_induction drain run with
  | case1 run log hpull =>
      rw [history_of_ended hpull]
      rfl
  | case2 run failure log hpull =>
      rw [history_of_failed hpull]
      rfl
  | case3 run item next log hpull later ih =>
      rw [history_of_item hpull, List.length_cons, List.length_cons, ih]

theorem log_history (run : Run) : run.history.flatMap Pull.log = run.drain.log := by
  fun_induction drain run with
  | case1 run log hpull =>
      rw [history_of_ended hpull, List.flatMap_singleton]
  | case2 run failure log hpull =>
      rw [history_of_failed hpull, List.flatMap_singleton]
  | case3 run item next log hpull later ih =>
      rw [history_of_item hpull, List.flatMap_cons, ih]

theorem outcomes_history (run : Run) :
    run.history.map (fun pull => pull.result.outcome) =
      run.drain.items.map (fun item => Outcome.pulled (some item)) ++ [run.drain.ending] := by
  fun_induction drain run with
  | case1 run log hpull =>
      rw [history_of_ended hpull]
      rfl
  | case2 run failure log hpull =>
      rw [history_of_failed hpull]
      rfl
  | case3 run item next log hpull later ih =>
      rw [history_of_item hpull, List.map_cons, ih]
      rfl

/-! ## Numbers of pulls -/

theorem length_pulls (run : Run) (count : Nat) : (run.pulls count).length = count := by
  simp [pulls]

theorem outcomes_pulls (run : Run) (count : Nat) :
    (run.pulls count).map (fun pull => pull.result.outcome) = run.drain.answers count := by
  rw [pulls, List.map_take, List.map_append, outcomes_history, List.map_replicate,
    List.append_assoc]
  rfl

theorem log_pulls_prefix (run : Run) (count : Nat) :
    (run.pulls count).flatMap Pull.log <+: run.drain.log := by
  have hwhole : (run.history ++ List.replicate count Pull.nothing).flatMap Pull.log =
      run.drain.log := by
    rw [List.flatMap_append, log_history, List.flatMap_replicate]
    simp [Pull.nothing]
  rw [← hwhole]
  refine ⟨((run.history ++ List.replicate count Pull.nothing).drop count).flatMap Pull.log, ?_⟩
  rw [pulls, ← List.flatMap_append, List.take_append_drop]

theorem pulls_eq (run : Run) (count : Nat) :
    run.pulls count =
      run.history.take count ++ List.replicate (count - run.history.length) Pull.nothing := by
  rw [pulls, List.take_append, List.take_replicate, Nat.min_eq_left (Nat.sub_le _ _)]

theorem pulls_of_lt {count : Nat} (h : run.drain.items.length < count) :
    run.pulls count =
      run.history ++ List.replicate (count - run.history.length) Pull.nothing := by
  have hlength := length_history run
  rw [pulls_eq, List.take_of_length_le (by omega)]

theorem pulls_succ_of_history {pull : Pull} {later : List Pull} (h : run.history = pull :: later)
    (count : Nat) :
    run.pulls (count + 1) =
      pull :: (later.take count ++ List.replicate (count - later.length) Pull.nothing) := by
  rw [pulls_eq, h, List.take_succ_cons, List.cons_append, List.length_cons,
    Nat.add_sub_add_right]

theorem log_pulls {count : Nat} (h : run.drain.items.length < count) :
    (run.pulls count).flatMap Pull.log = run.drain.log := by
  rw [pulls_of_lt h, List.flatMap_append, log_history, List.flatMap_replicate]
  simp [Pull.nothing]

theorem eq_nothing_of_mem_drop_pulls {count : Nat} {pull : Pull}
    (h : pull ∈ (run.pulls count).drop (run.drain.items.length + 1)) : pull = .nothing := by
  by_cases hlt : run.drain.items.length < count
  · rw [pulls_of_lt hlt, ← length_history, List.drop_left] at h
    exact List.eq_of_mem_replicate h
  · rw [List.drop_eq_nil_of_le (by rw [length_pulls]; omega)] at h
    contradiction

end Run

namespace Stream

def pulls (stream : Stream) : List Config → List Pull
  | [] => []
  | current :: later => stream.pull current :: (stream.pull current).result.stream.pulls later

theorem pulls_finished (configs : List Config) :
    finished.pulls configs = List.replicate configs.length Pull.nothing := by
  induction configs with
  | nil => rfl
  | cons current later ih =>
      rw [List.length_cons, List.replicate_succ, ← ih]
      rfl

theorem pulls_running (run : Run) (configs : List Config) :
    (running run).pulls configs = run.pulls configs.length := by
  induction configs generalizing run with
  | nil => rfl
  | cons current later ih =>
      have hpull : (running run).pull current = run.pull := rfl
      rw [pulls, hpull, List.length_cons]
      match hresult : run.pull with
      | ⟨.item item next, log⟩ =>
          rw [Run.pulls_succ_of_history (Run.history_of_item hresult), ← Run.pulls_eq, ← ih]
          rfl
      | ⟨.failed failure, log⟩ =>
          rw [Run.pulls_succ_of_history (Run.history_of_failed hresult), List.take_nil,
            List.nil_append]
          exact congrArg _ (pulls_finished later)
      | ⟨.ended, log⟩ =>
          rw [Run.pulls_succ_of_history (Run.history_of_ended hresult), List.take_nil,
            List.nil_append]
          exact congrArg _ (pulls_finished later)

theorem pulls_waiting {source : List Char} {explicit : Option Config} {config : Config}
    {configs : List Config} (h : explicit.or configs.head? = some config) :
    (waiting source explicit).pulls configs =
      (Run.start source config).pulls configs.length := by
  cases configs with
  | nil => rfl
  | cons current later =>
      have hconfig : explicit.getD current = config := by
        cases explicit with
        | none => exact Option.some.inj h
        | some chosen => exact Option.some.inj h
      have hpull : (waiting source explicit).pull current =
          (running (Run.start source config)).pull current := by
        rw [← hconfig]
        rfl
      rw [← pulls_running, pulls, hpull, ← pulls]

end Stream

end IRLexer
