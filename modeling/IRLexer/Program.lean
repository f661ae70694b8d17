import IRLexer.Stream

/-!
# Configuration programs

A program reads and changes the current configuration and pulls from named token streams.  A
scoped body has a configuration of its own until it ends or fails; a thread starts from the
default one.  Both leave the configuration outside as it was, while streams are shared by all.
-/

namespace IRLexer

abbrev Streams := List (String × Stream)

namespace Streams

def find (streams : Streams) (name : String) : Stream :=
  (streams.lookup name).getD .finished

def put (streams : Streams) (name : String) (stream : Stream) : Streams :=
  (name, stream) :: streams.filter fun entry => entry.1 ≠ name

theorem find_put_self (streams : Streams) (name : String) (stream : Stream) :
    (streams.put name stream).find name = stream := by
  simp [find, put]

private theorem lookup_filter_ne {name other : String} (h : other ≠ name) (streams : Streams) :
    (streams.filter fun entry => entry.1 ≠ name).lookup other = streams.lookup other := by
  induction streams with
  | nil => rfl
  | cons entry later ih =>
      obtain ⟨key, stream⟩ := entry
      by_cases same : key = name
      · subst same
        rw [List.filter_cons, if_neg (by simp), List.lookup_cons, beq_false_of_ne h, ih]
      · rw [List.filter_cons, if_pos (by simpa using same), List.lookup_cons, List.lookup_cons, ih]

theorem find_put_of_ne (streams : Streams) {name other : String} (stream : Stream)
    (h : other ≠ name) : (streams.put name stream).find other = streams.find other := by
  unfold find put
  rw [List.lookup_cons, beq_false_of_ne h, lookup_filter_ne h]

end Streams

structure World where
  config : Config := {}
  streams : Streams := []
  deriving DecidableEq, Repr

namespace World

def withConfig (world : World) (config : Config) : World :=
  { world with config := config }

def putStream (world : World) (name : String) (stream : Stream) : World :=
  { world with streams := world.streams.put name stream }

end World

/-! ## Actions -/

inductive Action
  | get
  | set (config : Config)
  | reset
  | tokenize (source : List Char) (config : Option Config)
  | openStream (name : String) (source : List Char) (config : Option Config)
  | pull (name : String)
  | close (name : String)
  | raise (message : String)
  deriving DecidableEq, Repr

inductive Outcome
  | done
  | tokenized (items : List Item) (failure : Option Failure)
  | pulled (item : Option Item)
  | failed (failure : Failure)
  deriving DecidableEq, Repr

def Outcome.failure? : Outcome → Option Failure
  | done | pulled _ => none
  | tokenized _ failure => failure
  | failed failure => some failure

def Pulled.outcome : Pulled → Outcome
  | item found _ => .pulled (some found)
  | failed failure => .failed failure
  | ended => .pulled none

structure Effect where
  outcome : Outcome
  log : List LogRecord
  world : World
  deriving DecidableEq, Repr

def Action.run (world : World) : Action → Effect
  | get => ⟨.done, [], world⟩
  | set config => ⟨.done, [], world.withConfig config⟩
  | reset => ⟨.done, [], world.withConfig {}⟩
  | tokenize source config =>
      let result := IRLexer.tokenize (config.getD world.config) source
      ⟨.tokenized result.items result.failure, result.log, world⟩
  | openStream name source config =>
      ⟨.done, [], world.putStream name (.waiting source config)⟩
  | pull name =>
      let pull := (world.streams.find name).pull world.config
      ⟨pull.result.outcome, pull.log, world.putStream name pull.result.stream⟩
  | close name => ⟨.done, [], world.putStream name .finished⟩
  | raise message => ⟨.failed (.raised message), [], world⟩

inductive Step
  | act (action : Action)
  | within (config : Config) (body : List Step)
  | thread (body : List Step)

inductive Answer
  | act (action : Action) (outcome : Outcome) (config : Config) (log : List LogRecord)
  | within (body : List Answer) (caught : Option Failure) (config : Config)
  | thread (body : List Answer) (config : Config)
  deriving Repr

namespace Answer

def config : Answer → Config
  | act _ _ config _ => config
  | within _ _ config => config
  | thread _ config => config

/-- The failure that leaves the step.  A scoped body catches what its steps let through. -/
def failure? : Answer → Option Failure
  | act _ outcome _ _ => outcome.failure?
  | within .. | thread .. => none

def log : Answer → List LogRecord
  | act _ _ _ log => log
  | within .. | thread .. => []

end Answer

/-! ## Running a program -/

structure BodyRun where
  answers : List Answer
  failure : Option Failure
  world : World

mutual

def Step.run (world : World) : Step → Answer × World
  | .act action =>
      let effect := action.run world
      (.act action effect.outcome effect.world.config effect.log, effect.world)
  | .within config body =>
      let ran := runBody (world.withConfig config) body
      (.within ran.answers ran.failure world.config, ran.world.withConfig world.config)
  | .thread body =>
      let (answers, after) := runAll (world.withConfig {}) body
      (.thread answers world.config, after.withConfig world.config)

def runAll (world : World) : List Step → List Answer × World
  | [] => ([], world)
  | step :: later =>
      let (answer, next) := step.run world
      let (answers, last) := runAll next later
      (answer :: answers, last)

/-- Runs steps up to and including the first that fails. -/
def runBody (world : World) : List Step → BodyRun
  | [] => ⟨[], none, world⟩
  | step :: later =>
      let (answer, next) := step.run world
      match answer.failure? with
      | some failure => ⟨[answer], some failure, next⟩
      | none =>
          let ran := runBody next later
          { ran with answers := answer :: ran.answers }

end

def runProgram (steps : List Step) : List Answer :=
  (runAll {} steps).1

end IRLexer
