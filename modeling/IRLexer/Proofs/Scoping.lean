import IRLexer.Program

/-!
# Scopes of the configuration

The steps of a program stand on levels: the program itself, the scoped bodies and the threads.  A
level begins with a configuration of its own, and only its own steps change what is current on it.
What a body or a thread inside it does, whether it ends or fails on the way, cannot be seen outside;
a thread sees nothing of what is around it either.
-/

namespace IRLexer

def Step.assigned? : Step → Option Config
  | .act (.set config) => some config
  | .act .reset => some {}
  | _ => none

/-- What is current behind some steps of a level: what the last of them assigned, or the entry. -/
def configAfter (entry : Config) (steps : List Step) : Config :=
  (steps.filterMap Step.assigned?).getLastD entry

theorem configAfter_cons (entry : Config) (step : Step) (later : List Step) :
    configAfter entry (step :: later) = configAfter (step.assigned?.getD entry) later := by
  unfold configAfter
  cases hassigned : step.assigned? with
  | none => rw [List.filterMap_cons_none hassigned, Option.getD_none]
  | some config =>
      rw [List.filterMap_cons_some hassigned, List.getLastD_cons, Option.getD_some]

namespace Step

theorem config_run (world : World) (step : Step) :
    (step.run world).2.config = step.assigned?.getD world.config := by
  cases step with
  | act action => cases action <;> rfl
  | within config body => rfl
  | thread body => rfl

theorem config_answer (world : World) (step : Step) :
    (step.run world).1.config = (step.run world).2.config := by
  cases step <;> rfl

end Step

/-- The step ran where one configuration was current and reports the one that it left. -/
def RanAt (answer : Answer) (step : Step) (before after : Config) : Prop :=
  ∃ world : World, world.config = before ∧ answer = (step.run world).1 ∧ answer.config = after

theorem ranAt_of_getElem?_runAll {world : World} {steps : List Step} {index : Nat}
    {answer : Answer} (h : (runAll world steps).1[index]? = some answer) :
    ∃ step, steps[index]? = some step ∧
      RanAt answer step (configAfter world.config (steps.take index))
        (configAfter world.config (steps.take (index + 1))) := by
  induction steps generalizing world index with
  | nil => simp [runAll] at h
  | cons step later ih =>
      have hconfig := step.config_run world
      cases index with
      | zero =>
          have hanswer : (step.run world).1 = answer := by simpa [runAll] using h
          refine ⟨step, rfl, world, rfl, hanswer.symm, ?_⟩
          rw [← hanswer, step.config_answer, hconfig, List.take_succ_cons, List.take_zero,
            configAfter_cons]
          rfl
      | succ index =>
          have hlater : (runAll (step.run world).2 later).1[index]? = some answer := by
            simpa [runAll] using h
          obtain ⟨found, hfound, hran⟩ := ih hlater
          rw [hconfig, ← configAfter_cons, ← configAfter_cons] at hran
          exact ⟨found, hfound, hran⟩

theorem length_runAll (world : World) (steps : List Step) :
    (runAll world steps).1.length = steps.length := by
  induction steps generalizing world with
  | nil => rfl
  | cons step later ih =>
      rw [runAll, List.length_cons, List.length_cons, ih]

/-- A body comes to its end behind the last step if none fails, or else with the first that does. -/
inductive EndsWith (steps : List Step) (answers : List Answer) : Option Failure → Prop
  | last (hlength : answers.length = steps.length)
      (hmet : ∀ answer ∈ answers, answer.failure? = none) : EndsWith steps answers none
  | failed {before : List Answer} {final : Answer} {failure : Failure}
      (hanswers : answers = before ++ [final]) (hlength : answers.length ≤ steps.length)
      (hmet : ∀ answer ∈ before, answer.failure? = none)
      (hfailure : final.failure? = some failure) : EndsWith steps answers (some failure)

theorem EndsWith.cons {steps : List Step} {answers : List Answer} {caught : Option Failure}
    (h : EndsWith steps answers caught) (step : Step) {answer : Answer}
    (hanswer : answer.failure? = none) : EndsWith (step :: steps) (answer :: answers) caught := by
  cases h with
  | last hlength hmet =>
      exact .last (congrArg Nat.succ hlength) (List.forall_mem_cons.mpr ⟨hanswer, hmet⟩)
  | @failed before final failure hanswers hlength hmet hfailure =>
      have hcons : answer :: answers = (answer :: before) ++ [final] := by
        rw [hanswers, List.cons_append]
      exact .failed hcons (Nat.succ_le_succ hlength) (List.forall_mem_cons.mpr ⟨hanswer, hmet⟩)
        hfailure

theorem endsWith_runBody (world : World) (steps : List Step) :
    EndsWith steps (runBody world steps).answers (runBody world steps).failure := by
  induction steps generalizing world with
  | nil => exact .last rfl (List.forall_mem_nil _)
  | cons step later ih =>
      rw [runBody]
      cases hfailure : (step.run world).1.failure? with
      | some failure =>
          simp only [hfailure]
          exact .failed rfl (Nat.succ_le_succ (Nat.zero_le _)) (List.forall_mem_nil _) hfailure
      | none =>
          simp only [hfailure]
          exact (ih _).cons step hfailure

def IsRunOut (steps : List Step) (answers : List Answer) : Prop :=
  answers.length = steps.length ∨ ∃ failure, EndsWith steps answers (some failure)

theorem EndsWith.isRunOut {steps : List Step} {answers : List Answer} {caught : Option Failure}
    (h : EndsWith steps answers caught) : IsRunOut steps answers := by
  cases caught with
  | none =>
      cases h with
      | last hlength hmet => exact .inl hlength
  | some failure => exact .inr ⟨failure, h⟩

theorem answers_runBody_prefix (world : World) (steps : List Step) :
    (runBody world steps).answers <+: (runAll world steps).1 := by
  induction steps generalizing world with
  | nil => exact List.prefix_refl _
  | cons step later ih =>
      rw [runBody]
      cases hfailure : (step.run world).1.failure? with
      | some failure =>
          simp only [hfailure]
          exact List.cons_prefix_cons.mpr ⟨rfl, List.nil_prefix⟩
      | none =>
          simp only [hfailure]
          exact List.cons_prefix_cons.mpr ⟨rfl, ih _⟩

theorem exists_answers_thread (world : World) (body : List Step) :
    ∃ answers : List Answer, answers.length = body.length ∧
      (∀ outer, ((Step.thread body).run (world.withConfig outer)).1 = .thread answers outer) ∧
        ∀ first, answers[0]? = some first →
          ∃ step, body[0]? = some step ∧ RanAt first step {} (step.assigned?.getD {}) := by
  refine ⟨(runAll (world.withConfig {}) body).1, length_runAll _ body, fun outer => rfl, ?_⟩
  intro first hfirst
  obtain ⟨step, hstep, hran⟩ := ranAt_of_getElem?_runAll hfirst
  have htake : body.take 1 = [step] := by
    rw [List.take_add_one, List.take_zero, hstep]
    rfl
  rw [List.take_zero, htake, configAfter_cons] at hran
  exact ⟨step, hstep, hran⟩

/-! ## Levels -/

/-- The levels of a program that has been run: how each was entered, its steps, its answers. -/
inductive Level (entry : Config) (steps : List Step) (answers : List Answer) :
    Config → List Step → List Answer → Prop
  | program : Level entry steps answers entry steps answers
  | within {outer config after : Config} {level body : List Step} {answered inner : List Answer}
      {caught : Option Failure} {index : Nat}
      (hlevel : Level entry steps answers outer level answered)
      (hstep : level[index]? = some (.within config body))
      (hanswer : answered[index]? = some (.within inner caught after)) :
      Level entry steps answers config body inner
  | thread {outer after : Config} {level body : List Step} {answered inner : List Answer}
      {index : Nat} (hlevel : Level entry steps answers outer level answered)
      (hstep : level[index]? = some (.thread body))
      (hanswer : answered[index]? = some (.thread inner after)) :
      Level entry steps answers {} body inner

theorem getElem?_of_initial {answers all : List Answer} {index : Nat} {answer : Answer}
    (hinitial : answers <+: all) (hanswer : answers[index]? = some answer) :
    all[index]? = some answer := by
  obtain ⟨hlt, hget⟩ := List.getElem?_eq_some_iff.mp hanswer
  rw [← hget]
  exact List.prefix_iff_getElem?.mp hinitial index hlt

theorem exists_world_of_initial {start : World} {steps : List Step} {answers : List Answer}
    {index : Nat} {step : Step} {answer : Answer} (hinitial : answers <+: (runAll start steps).1)
    (hstep : steps[index]? = some step) (hanswer : answers[index]? = some answer) :
    ∃ before : World, answer = (step.run before).1 := by
  have hwhole := getElem?_of_initial hinitial hanswer
  obtain ⟨found, hfound, before, -, hran, -⟩ := ranAt_of_getElem?_runAll hwhole
  obtain rfl : found = step := Option.some.inj (hfound.symm.trans hstep)
  exact ⟨before, hran⟩

theorem Level.exists_world {world : World} {steps level : List Step} {entry : Config}
    {answered : List Answer}
    (h : Level world.config steps (runAll world steps).1 entry level answered) :
    ∃ start : World, start.config = entry ∧ answered <+: (runAll start level).1 ∧
      IsRunOut level answered := by
  induction h with
  | program => exact ⟨world, rfl, List.prefix_refl _, .inl (length_runAll world steps)⟩
  | @within outer config after level body answered inner caught index _ hstep hanswer ih =>
      obtain ⟨start, -, hinitial, -⟩ := ih
      obtain ⟨before, hran⟩ := exists_world_of_initial hinitial hstep hanswer
      obtain ⟨rfl, -, -⟩ := Answer.within.inj hran
      exact ⟨before.withConfig config, rfl, answers_runBody_prefix _ body,
        (endsWith_runBody _ body).isRunOut⟩
  | @thread outer after level body answered inner index _ hstep hanswer ih =>
      obtain ⟨start, -, hinitial, -⟩ := ih
      obtain ⟨before, hran⟩ := exists_world_of_initial hinitial hstep hanswer
      obtain ⟨rfl, -⟩ := Answer.thread.inj hran
      exact ⟨before.withConfig {}, rfl, List.prefix_refl _, .inl (length_runAll _ body)⟩

/--
In every program a scoped body and a thread leave the configuration around them as it was, however
they end, and a thread begins with the default whatever is around it.  A body ends with the first of
its steps that fails, or else with the last.  On each level every answer therefore reports what a
step of this level has assigned last, or else what the level was entered with.
-/
theorem configs_follow_levels (world : World) (steps : List Step) :
    (∀ (before : World) (config : Config) (body : List Step),
      ((Step.within config body).run before).2.config = before.config ∧
        ((Step.within config body).run before).1.config = before.config ∧
        ∃ (answers : List Answer) (caught : Option Failure),
          ((Step.within config body).run before).1 = .within answers caught before.config ∧
            EndsWith body answers caught) ∧
    (∀ (before : World) (body : List Step),
      ((Step.thread body).run before).2.config = before.config ∧
        ∃ answers : List Answer, answers.length = body.length ∧
          (∀ outer,
            ((Step.thread body).run (before.withConfig outer)).1 = .thread answers outer) ∧
          ∀ first, answers[0]? = some first →
            ∃ step, body[0]? = some step ∧ RanAt first step {} (step.assigned?.getD {})) ∧
    ∀ (entry : Config) (level : List Step) (answers : List Answer),
      Level world.config steps (runAll world steps).1 entry level answers →
        IsRunOut level answers ∧
        ∀ (index : Nat) (answer : Answer), answers[index]? = some answer →
          ∃ step, level[index]? = some step ∧
            RanAt answer step (configAfter entry (level.take index))
              (configAfter entry (level.take (index + 1))) := by
  refine ⟨?within, ?thread, ?levels⟩
  case within =>
    intro before config body
    have hrestored := Step.config_run before (.within config body)
    exact ⟨hrestored, (Step.config_answer before _).trans hrestored, _, _, rfl,
      endsWith_runBody _ body⟩
  case thread =>
    intro before body
    exact ⟨Step.config_run before (.thread body), exists_answers_thread before body⟩
  case levels =>
    intro entry level answers hlevel
    obtain ⟨start, rfl, hinitial, hout⟩ := hlevel.exists_world
    refine ⟨hout, ?_⟩
    intro index answer hanswer
    exact ranAt_of_getElem?_runAll (getElem?_of_initial hinitial hanswer)

theorem configs_follow_levels_nested :
    RanAt (.act .get .done {} []) (.act .get) {} {} ∧
      RanAt (.act .get .done { skipComments := true } []) (.act .get) { skipComments := true }
        { skipComments := true } := by
  let body : List Step :=
    [.act (.set { strict := true }), .thread [.act .get], .act (.raise "stop")]
  let steps : List Step := [.within {} body, .act .get]
  let world : World := { config := { skipComments := true } }
  have hlevels := (configs_follow_levels world steps).2.2
  have hprogram : Level world.config steps (runAll world steps).1 world.config steps
      (runAll world steps).1 := .program
  have hbody := hprogram.within (show steps[0]? = some (.within {} body) from rfl) rfl
  have hthread := hbody.thread (show body[1]? = some (.thread [.act .get]) from rfl) rfl
  obtain ⟨inner, hinner, hseen⟩ := (hlevels _ _ _ hthread).2 0 _ rfl
  obtain ⟨outer, houter, hkept⟩ := (hlevels _ _ _ hprogram).2 1 _ rfl
  obtain rfl := Option.some.inj hinner
  obtain rfl := Option.some.inj houter
  exact ⟨hseen, hkept⟩

end IRLexer
