import IRLexer.Proofs.StreamHistory

/-!
# Interleaved streams

A program pulls from many streams in turn, in bodies and threads, while the configuration changes
around them.  Its answers, read in order, are a trace of single actions on the named streams.  An
action on one name leaves every other stream as it was, so that between its opening and its closing
a stream sees nothing but its own pulls and, at the first of them, the configuration of the moment.
What comes of the pulls is therefore an initial part of the tokenization of its source.
-/

namespace IRLexer

structure Event where
  action : Action
  outcome : Outcome
  config : Config
  log : List LogRecord
  deriving DecidableEq, Repr

mutual

def Answer.events : Answer → List Event
  | .act action outcome config log => [⟨action, outcome, config, log⟩]
  | .within body _ _ => eventsOf body
  | .thread body _ => eventsOf body

def eventsOf : List Answer → List Event
  | [] => []
  | answer :: later => answer.events ++ eventsOf later

end

def Action.event (world : World) (action : Action) : Event :=
  let effect := action.run world
  ⟨action, effect.outcome, effect.world.config, effect.log⟩

/-- The events are actions run one after another, each on the streams that the last one left. -/
inductive Trace : Streams → List Event → Streams → Prop
  | nil (streams : Streams) : Trace streams [] streams
  | cons (world : World) (action : Action) {events : List Event} {last : Streams}
      (later : Trace (action.run world).world.streams events last) :
      Trace world.streams (action.event world :: events) last

namespace Trace

variable {first middle last : Streams} {before after : List Event}

theorem append (hbefore : Trace first before middle) (hafter : Trace middle after last) :
    Trace first (before ++ after) last := by
  induction hbefore with
  | nil streams => exact hafter
  | cons world action later ih => exact .cons world action (ih hafter)

theorem split (h : Trace first (before ++ after) last) :
    ∃ middle, Trace first before middle ∧ Trace middle after last := by
  induction before generalizing first with
  | nil => exact ⟨first, .nil first, h⟩
  | cons event before ih =>
      cases h with
      | cons world action later =>
          obtain ⟨middle, hbefore, hafter⟩ := ih later
          exact ⟨middle, .cons world action hbefore, hafter⟩

end Trace

mutual

theorem Step.trace_run (world : World) : (step : Step) →
    Trace world.streams (step.run world).1.events (step.run world).2.streams
  | .act action => .cons world action (.nil _)
  | .within config body => trace_runBody (world.withConfig config) body
  | .thread body => trace_runAll (world.withConfig {}) body

theorem trace_runAll (world : World) : (steps : List Step) →
    Trace world.streams (eventsOf (runAll world steps).1) (runAll world steps).2.streams
  | [] => .nil _
  | step :: later =>
      (step.trace_run world).append (trace_runAll (step.run world).2 later)

theorem trace_runBody (world : World) : (steps : List Step) →
    Trace world.streams (eventsOf (runBody world steps).answers)
      (runBody world steps).world.streams
  | [] => .nil _
  | step :: later => by
      have hstep := step.trace_run world
      rw [runBody]
      cases hfailure : (step.run world).1.failure? with
      | some failure =>
          simp only [hfailure]
          simpa [eventsOf] using hstep
      | none =>
          simp only [hfailure]
          exact hstep.append (trace_runBody (step.run world).2 later)

end

/-! ## The part of a trace that concerns one name -/

def Action.target? : Action → Option String
  | .openStream name _ _ | .pull name | .close name => some name
  | .get | .set _ | .reset | .tokenize _ _ | .raise _ => none

theorem Action.find_run_of_ne {action : Action} {name : String} (h : action.target? ≠ some name)
    (world : World) :
    (action.run world).world.streams.find name = world.streams.find name := by
  have hne {other : String} (htarget : some other ≠ some name) : name ≠ other := by
    rintro rfl
    exact htarget rfl
  cases action with
  | get | set config | reset | tokenize source config | raise message => rfl
  | openStream other source config => exact Streams.find_put_of_ne _ _ (hne h)
  | pull other => exact Streams.find_put_of_ne _ _ (hne h)
  | close other => exact Streams.find_put_of_ne _ _ (hne h)

namespace Event

def answer (event : Event) : Outcome × List LogRecord :=
  (event.outcome, event.log)

def ends (name : String) (event : Event) : Bool :=
  match event.action with
  | .openStream other _ _ | .close other => other = name
  | _ => false

def pulls (name : String) (event : Event) : Bool :=
  match event.action with
  | .pull other => other = name
  | _ => false

end Event

/-- The pulls from the stream of the name until it is closed or the name is opened again. -/
def pullsOf (name : String) (events : List Event) : List Event :=
  (events.takeWhile fun event => !event.ends name).filter (Event.pulls name)

theorem pullsOf_cons_of_ends {name : String} {event : Event} (h : event.ends name = true)
    (later : List Event) : pullsOf name (event :: later) = [] := by
  simp [pullsOf, h]

theorem pullsOf_cons_of_pulls {name : String} {event : Event} (h : event.action = .pull name)
    (later : List Event) : pullsOf name (event :: later) = event :: pullsOf name later := by
  simp [pullsOf, Event.ends, Event.pulls, h]

theorem pullsOf_cons_of_other {name : String} {event : Event}
    (h : event.action.target? ≠ some name) (later : List Event) :
    pullsOf name (event :: later) = pullsOf name later := by
  have hends : event.ends name = false := by
    unfold Event.ends
    split <;> simp_all [Action.target?]
  have hpulls : event.pulls name = false := by
    unfold Event.pulls
    split <;> simp_all [Action.target?]
  simp [pullsOf, hends, hpulls]

namespace Trace

variable {first last : Streams} {events : List Event}

theorem answers_pullsOf (h : Trace first events last) (name : String) :
    (pullsOf name events).map Event.answer =
      ((first.find name).pulls ((pullsOf name events).map Event.config)).map Pull.answer := by
  induction h with
  | nil streams => rfl
  | @cons world action events last later ih =>
      by_cases htarget : action.target? = some name
      · cases action with
        | pull other =>
            obtain rfl : other = name := Option.some.inj htarget
            have hafter : ((Action.pull other).run world).world.streams.find other =
                ((world.streams.find other).pull world.config).result.stream :=
              Streams.find_put_self _ _ _
            rw [pullsOf_cons_of_pulls rfl, List.map_cons, List.map_cons, Stream.pulls,
              List.map_cons, ih, hafter]
            rfl
        | openStream other source config =>
            obtain rfl : other = name := Option.some.inj htarget
            rw [pullsOf_cons_of_ends (by simp [Event.ends, Action.event])]
            rfl
        | close other =>
            obtain rfl : other = name := Option.some.inj htarget
            rw [pullsOf_cons_of_ends (by simp [Event.ends, Action.event])]
            rfl
        | get | set config | reset | tokenize source config | raise message => contradiction
      · rw [pullsOf_cons_of_other htarget, ih, Action.find_run_of_ne htarget]

theorem answers_of_opened {name : String} {source : List Char} {explicit : Option Config}
    {config : Config} {opened : Event} (h : Trace first (opened :: events) last)
    (hopened : opened.action = .openStream name source explicit)
    (hconfig : explicit.or ((pullsOf name events).head?.map Event.config) = some config) :
    (pullsOf name events).map Event.answer =
      ((Run.start source config).pulls (pullsOf name events).length).map Pull.answer := by
  cases h with
  | cons world action later =>
      have haction : action = .openStream name source explicit := hopened
      subst haction
      have hfind : ((Action.openStream name source explicit).run world).world.streams.find name =
          .waiting source explicit :=
        Streams.find_put_self _ _ _
      rw [later.answers_pullsOf name, hfind, Stream.pulls_waiting (by rwa [List.head?_map]),
        List.length_map]

theorem answers_of_closed {name : String} {closed : Event}
    (h : Trace first (closed :: events) last) (hclosed : closed.action = .close name) :
    (pullsOf name events).map Event.answer =
      List.replicate (pullsOf name events).length (.pulled none, []) := by
  cases h with
  | cons world action later =>
      have haction : action = .close name := hclosed
      subst haction
      have hfind : ((Action.close name).run world).world.streams.find name = .finished :=
        Streams.find_put_self _ _ _
      rw [later.answers_pullsOf name, hfind, Stream.pulls_finished, List.map_replicate,
        List.length_map]
      rfl

end Trace

/-- Pulls that answer and log as the tokenization does, as far as they go and not beyond its end. -/
structure ReadFrom (pulled : List Event) (stream : Tokenization) : Prop where
  outcomes : pulled.map Event.outcome = stream.answers pulled.length
  log_prefix : pulled.flatMap Event.log <+: stream.log
  log_eq : stream.items.length < pulled.length → pulled.flatMap Event.log = stream.log
  nothing_after : ∀ event ∈ pulled.drop (stream.items.length + 1),
    event.answer = (.pulled none, [])

theorem Run.readFrom_drain {run : Run} {pulled : List Event}
    (h : pulled.map Event.answer = (run.pulls pulled.length).map Pull.answer) :
    ReadFrom pulled run.drain := by
  have houtcomes : pulled.map Event.outcome =
      (run.pulls pulled.length).map fun pull => pull.result.outcome := by
    have hmap := congrArg (List.map Prod.fst) h
    rw [List.map_map, List.map_map] at hmap
    exact hmap
  have hlog : pulled.flatMap Event.log = (run.pulls pulled.length).flatMap Pull.log := by
    have hmap := congrArg (List.map Prod.snd) h
    rw [List.map_map, List.map_map] at hmap
    exact congrArg List.flatten hmap
  constructor
  · rw [houtcomes, run.outcomes_pulls]
  · rw [hlog]
    exact run.log_pulls_prefix pulled.length
  · intro hlt
    rw [hlog, log_pulls hlt]
  · intro event hevent
    have hmem : event.answer ∈ (pulled.map Event.answer).drop (run.drain.items.length + 1) := by
      rw [← List.map_drop]
      exact List.mem_map_of_mem hevent
    rw [h, ← List.map_drop] at hmem
    obtain ⟨pull, hpull, hanswer⟩ := List.mem_map.mp hmem
    rw [← hanswer, eq_nothing_of_mem_drop_pulls hpull]
    rfl

/--
In every program, the pulls from a stream between its opening and its end are answered as pulls from
the stream alone, and read from the tokenization of its source under the configuration that it was
opened with or else the one that was current at its first pull.  A closed stream gives nothing.
-/
theorem pulls_read_tokenization (world : World) (steps : List Step) (name : String) :
    let events := eventsOf (runAll world steps).1
    (∀ (before after : List Event) (opened : Event) (source : List Char)
        (explicit : Option Config) (config : Config),
      events = before ++ opened :: after → opened.action = .openStream name source explicit →
        explicit.or ((pullsOf name after).head?.map Event.config) = some config →
          (pullsOf name after).map Event.answer =
              ((Run.start source config).pulls (pullsOf name after).length).map Pull.answer ∧
            ReadFrom (pullsOf name after) (tokenize config source)) ∧
      ∀ (before after : List Event) (closed : Event),
        events = before ++ closed :: after → closed.action = .close name →
          ∀ event ∈ pullsOf name after, event.answer = (.pulled none, []) := by
  intro events
  have htrace : Trace world.streams events (runAll world steps).2.streams :=
    trace_runAll world steps
  constructor
  · intro before after opened source explicit config hevents hopened hconfig
    rw [hevents] at htrace
    obtain ⟨middle, -, hafter⟩ := htrace.split
    have hanswers := hafter.answers_of_opened hopened hconfig
    exact ⟨hanswers, Run.readFrom_drain hanswers⟩
  · intro before after closed hevents hclosed event hevent
    rw [hevents] at htrace
    obtain ⟨middle, -, hafter⟩ := htrace.split
    have hmem : event.answer ∈ (pullsOf name after).map Event.answer := List.mem_map_of_mem hevent
    rw [hafter.answers_of_closed hclosed] at hmem
    exact List.eq_of_mem_replicate hmem

theorem pulls_read_tokenization_strict :
    ReadFrom
      [⟨.pull "s", .pulled (some (.token ⟨.equal, none, ['='], 0, 1⟩)), { strict := true }, []⟩,
        ⟨.pull "s", .failed (.invalidChar ⟨'#', 1, 1⟩ none), {}, [.invalidChar ⟨'#', 1, 1⟩]⟩,
        ⟨.pull "s", .pulled none, {}, []⟩]
      (tokenize { strict := true } ['=', '#']) := by
  have hfirst : (Run.start ['=', '#'] { strict := true }).pull =
      ⟨.item (.token ⟨.equal, none, ['='], 0, 1⟩) ⟨⟨1, 1, ['#']⟩, { strict := true }, 1, 0⟩, []⟩ :=
    Run.pull_of_token (by rfl) rfl rfl
  have hsecond : (Run.mk ⟨1, 1, ['#']⟩ { strict := true } 1 0).pull =
      ⟨.failed (.invalidChar ⟨'#', 1, 1⟩ none), [.invalidChar ⟨'#', 1, 1⟩]⟩ :=
    Run.pull_of_invalid_of_strict (by rfl) rfl rfl
  have hread := pulls_read_tokenization {}
    [.act (.openStream "s" ['=', '#'] none),
      .within { strict := true } [.act (.pull "s")], .act (.pull "s"), .act (.pull "s")] "s"
  simp only [runAll, Step.run, runBody, Action.run, World.putStream, World.withConfig,
    Streams.find_put_self, Stream.pull, Stream.run?, Option.getD_none, hfirst, hsecond,
    Pulled.outcome, Pulled.stream, Answer.failure?, Outcome.failure?, eventsOf, Answer.events,
    List.append_nil, List.cons_append, List.nil_append] at hread
  exact (hread.1 [] _ _ ['=', '#'] none { strict := true } rfl rfl (by decide)).2

end IRLexer
