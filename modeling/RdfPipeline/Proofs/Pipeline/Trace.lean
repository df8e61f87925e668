import RdfPipeline.Proofs.Pipeline.Checking

/-!
# What a run tells and what it reports

The events of a run, its results and its error are three views of the same sequence of steps. What
each step tells and the result that it leaves come from the execution of its operation.
-/

set_option autoImplicit false

namespace RdfPipeline.Pipeline

/-! ## Traces -/

/-- Progress and log lines of a step. -/
def Event.TellsOf (step : String) : Event → Prop
  | .progress name _ _ => name = step
  | .log name _ _ => name = step
  | .started _ _ | .completed _ _ | .finished _ _ => False

/-- The event of a step that a notice becomes. A metric becomes none. -/
def Event.ofNotice? (step : String) : Notice → Option Event
  | .progress processed total => some (.progress step processed total)
  | .log level message => some (.log step level message)
  | .metric _ _ => none

/-- What a step that ran leaves behind. -/
structure StepTrace where
  step : Step
  /-- The events between the start and the end of the step. -/
  told : List Event
  result : StepResult
  told_of_step : ∀ event ∈ told, event.TellsOf step.id
  result_of_step : result.step = step.id

namespace StepTrace

def events (trace : StepTrace) : List Event :=
  .started trace.step.id trace.step.displayName ::
    (trace.told ++ [.completed trace.step.id trace.result.success])

/-- The error of a run that ends with this step. -/
def failure (trace : StepTrace) : EngineError :=
  .pipelineExecution ("Step '" ++ trace.step.displayName ++ "' failed: " ++
    trace.result.error.getD "unknown error")

end StepTrace

/-- What the invocation of the operation of a step comes to. -/
def execution (setting : Setting) (step : Step) (operation : Operation) (state : State) :
    Except EngineError OperationResult × Session :=
  operation.execute (setting.context step operation (state.begin step operation).1)
    ⟨(state.begin step operation).2.host, []⟩

/-- The step of the trace has run in the given state. It leaves what its operation tells and comes
to, or one line and the result of a step that is left out. -/
inductive StepTrace.LeftBy (setting : Setting) (operation : Operation) (ready : State)
    (trace : StepTrace) : Prop where
  | invoked (live : setting.leavesOut operation = false)
      (told : trace.told = (execution setting trace.step operation ready).2.notices.filterMap
        (Event.ofNotice? trace.step.id))
      (result : trace.result =
        invocationResult trace.step (execution setting trace.step operation ready).1) :
      LeftBy setting operation ready trace
  | leftOut (left : setting.leavesOut operation = true)
      (told : trace.told = [.log trace.step.id .info "Dry run: output step skipped"])
      (result : trace.result = .leftOut trace.step) : LeftBy setting operation ready trace

/-- In front of a step no request to cancel is found, and the operation of the step is. -/
structure Starts (setting : Setting) (before : State) (step : Step) (operation : Operation)
    (ready : State) : Prop where
  unrequested : before.poll = (false, ready)
  found : setting.registry.get step.operation = .ok operation

/-- The steps of the traces have run from the state, one after the other. -/
inductive LeftFrom (setting : Setting) : State → List StepTrace → Prop where
  | nothing {state : State} : LeftFrom setting state []
  | next {before ready : State} {operation : Operation} {trace : StepTrace}
      {traces : List StepTrace} (starts : Starts setting before trace.step operation ready)
      (left : trace.LeftBy setting operation ready)
      (further : LeftFrom setting (runStep setting trace.step operation ready).2 traces) :
      LeftFrom setting before (trace :: traces)

/-- The states before and after some steps differ by their events and results. -/
structure Extends (before : State) (traces : List StepTrace) (after : State) : Prop where
  events : after.events = before.events ++ traces.flatMap StepTrace.events
  ledger : after.ledger = (traces.map (·.result)).foldl Ledger.record before.ledger

/-- How the steps in the given order came to an end: all of them ran, one failed, or the run stopped
before one. -/
inductive Ends (registry : Registry) (steps : List Step) :
    List StepTrace → Except EngineError Unit → Prop where
  | completed {traces : List StepTrace} (all : traces.map (·.step) = steps)
      (successful : ∀ trace ∈ traces, trace.result.success = true) :
      Ends registry steps traces (.ok ())
  | failed {traces : List StepTrace} {last : StepTrace}
      (ran : (traces ++ [last]).map (·.step) <+: steps)
      (successful : ∀ trace ∈ traces, trace.result.success = true)
      (unsuccessful : last.result.success = false) :
      Ends registry steps (traces ++ [last]) (.error last.failure)
  | stopped {traces : List StepTrace} {next : Step} {rest : List Step} {error : EngineError}
      (left : steps = traces.map (·.step) ++ next :: rest)
      (successful : ∀ trace ∈ traces, trace.result.success = true)
      (cause : error = .cancelled (some next.id) ∨ registry.get next.operation = .error error) :
      Ends registry steps traces (.error error)

theorem results_foldl_record (ledger : Ledger) (results : List StepResult) :
    (results.foldl Ledger.record ledger).results = ledger.results ++ results := by
  induction results generalizing ledger with
  | nil => simp
  | cons result rest ih => simp [ih, Ledger.record]

theorem Extends.results {before after : State} {traces : List StepTrace}
    (extended : Extends before traces after) :
    after.results = before.results ++ traces.map (·.result) := by
  rw [State.results, extended.ledger, results_foldl_record]

theorem Extends.refl (state : State) : Extends state [] state :=
  ⟨by simp, by simp⟩

theorem Extends.trans {before middle after : State} {first second : List StepTrace}
    (left : Extends before first middle) (right : Extends middle second after) :
    Extends before (first ++ second) after := by
  constructor
  · rw [right.events, left.events, List.append_assoc, List.flatMap_append]
  · rw [right.ledger, left.ledger, List.map_append, List.foldl_append]

/-! ## One step -/

/-- Between the two states a step has told of nothing but its progress. -/
structure Tells (step : String) (before : State) (told : List Event) (after : State) : Prop where
  ofStep : ∀ event ∈ told, event.TellsOf step
  events : after.events = before.events ++ told
  ledger : after.ledger = before.ledger

theorem Tells.nothing {step : String} {before after : State}
    (events : after.events = before.events) (ledger : after.ledger = before.ledger) :
    Tells step before [] after :=
  ⟨by simp, by simp [events], ledger⟩

theorem Tells.tell {step : String} (state : State) {event : Event} (ofStep : event.TellsOf step) :
    Tells step state [event] (state.tell event) :=
  ⟨List.forall_mem_singleton.mpr ofStep, rfl, rfl⟩

theorem Tells.trans {step : String} {before middle after : State} {first second : List Event}
    (left : Tells step before first middle) (right : Tells step middle second after) :
    Tells step before (first ++ second) after := by
  refine ⟨List.forall_mem_append.mpr ⟨left.ofStep, right.ofStep⟩, ?_, ?_⟩
  · rw [right.events, left.events, List.append_assoc]
  · rw [right.ledger, left.ledger]

theorem relay_spec (step : String) (state : State) (notice : Notice) :
    Tells step state (Event.ofNotice? step notice).toList (state.relay step notice) := by
  cases notice with
  | progress processed total => exact .tell state (Eq.refl step)
  | log level message => exact .tell state (Eq.refl step)
  | metric name value => exact .nothing rfl rfl

theorem foldl_relay_spec (step : String) (notices : List Notice) (state : State) :
    Tells step state (notices.filterMap (Event.ofNotice? step))
      (notices.foldl (State.relay step) state) := by
  induction notices generalizing state with
  | nil => exact .nothing rfl rfl
  | cons notice rest ih =>
      have told := (relay_spec step state notice).trans (ih (state.relay step notice))
      have together : (notice :: rest).filterMap (Event.ofNotice? step) =
          (Event.ofNotice? step notice).toList ++ rest.filterMap (Event.ofNotice? step) := by
        cases notice <;> rfl
      rwa [together]

/-- Looking up the input of a step changes nothing that a run tells or reports. -/
theorem input_frame (state : State) (step : Step) (type : OperationType) :
    (state.input step type).2.events = state.events ∧
      (state.input step type).2.ledger = state.ledger := by
  unfold State.input
  split <;> exact ⟨rfl, rfl⟩

theorem invocationResult_step (step : Step) (outcome : Except EngineError OperationResult) :
    (invocationResult step outcome).step = step.id := by
  cases outcome <;> rfl

theorem invoke_spec (setting : Setting) (step : Step) (operation : Operation) (input : Payload)
    (state : State) :
    Tells step.id state
      ((operation.execute (setting.context step operation input) ⟨state.host, []⟩).2.notices.filterMap
        (Event.ofNotice? step.id))
      (invoke setting step operation input state).2 := by
  have moved : ∀ host, Tells step.id state [] { state with host } := fun _ => .nothing rfl rfl
  exact (moved _).trans (foldl_relay_spec step.id _ _)

theorem conclude_spec (step : Step) (result : StepResult) (state : State) :
    (conclude step result state).2.events = state.events ++ [.completed step.id result.success] ∧
      (conclude step result state).2.ledger = state.ledger.record result := by
  unfold conclude
  split <;> exact ⟨rfl, rfl⟩

theorem exists_trace_of_conclude {step : Step} {told : List Event} {result : StepResult}
    {before state : State} (resultOfStep : result.step = step.id)
    (tells : Tells step.id (before.tell (.started step.id step.displayName)) told state) :
    ∃ trace : StepTrace, trace.step = step ∧ trace.told = told ∧ trace.result = result ∧
      Extends before [trace] (conclude step result state).2 ∧
      (conclude step result state).1 =
        if trace.result.success then .ok () else .error trace.failure := by
  obtain ⟨afterEvents, afterLedger⟩ := conclude_spec step result state
  refine ⟨⟨step, told, result, tells.ofStep, resultOfStep⟩, rfl, rfl, rfl, ⟨?_, ?_⟩, ?_⟩
  · rw [afterEvents, tells.events]
    simp [StepTrace.events, State.tell]
  · rw [afterLedger, tells.ledger]
    rfl
  · unfold conclude
    split <;> rfl

/-- A step tells of its start, then what its operation tells of its progress, then its end. -/
theorem runStep_spec (setting : Setting) (step : Step) (operation : Operation) (state : State) :
    ∃ trace : StepTrace, trace.step = step ∧
      Extends state [trace] (runStep setting step operation state).2 ∧
      (runStep setting step operation state).1 =
        (if trace.result.success then .ok () else .error trace.failure) ∧
      trace.LeftBy setting operation state := by
  obtain ⟨sameEvents, sameLedger⟩ :=
    input_frame (state.tell (.started step.id step.displayName)) step operation.type
  have begun : Tells step.id (state.tell (.started step.id step.displayName)) []
      (state.begin step operation).2 := .nothing sameEvents sameLedger
  cases left : setting.leavesOut operation with
  | true =>
      rw [runStep_of_leavesOut left]
      have line : Event.TellsOf step.id
          (.log step.id .info "Dry run: output step skipped") := rfl
      have ofStep : (StepResult.leftOut step).step = step.id := rfl
      obtain ⟨trace, rfl, told, result, extended, outcome⟩ :=
        exists_trace_of_conclude ofStep (begun.trans (.tell (state.begin step operation).2 line))
      exact ⟨trace, rfl, extended, outcome, .leftOut left told result⟩
  | false =>
      rw [runStep_of_not_leavesOut left]
      have tells := invoke_spec setting step operation
        (state.begin step operation).1 (state.begin step operation).2
      obtain ⟨trace, rfl, told, result, extended, outcome⟩ :=
        exists_trace_of_conclude
          (invocationResult_step step (execution setting step operation state).1)
          (begun.trans tells)
      exact ⟨trace, rfl, extended, outcome, .invoked left told result⟩

/-! ## A run of steps -/

theorem poll_extends (state : State) : Extends state [] state.poll.2 :=
  ⟨(List.append_nil _).symm, rfl⟩

/-- A run stops in front of a step, at a request to cancel or because its operation is unknown, or
the step starts. -/
theorem round_cases (setting : Setting) (step : Step) (before : State) :
    (∃ error, (∀ operation ready, ¬Starts setting before step operation ready) ∧
      (∀ rest, runSteps setting (step :: rest) before = (.error error, before.poll.2)) ∧
      (error = .cancelled (some step.id) ∨ setting.registry.get step.operation = .error error)) ∨
    ∃ operation ready, Starts setting before step operation ready := by
  cases polling : before.poll with
  | mk requested polled =>
    cases requested with
    | true =>
        refine .inl ⟨.cancelled (some step.id), ?_, fun rest => by simp only [runSteps, polling],
          .inl rfl⟩
        intro operation ready starts
        cases polling.symm.trans starts.unrequested
    | false =>
        cases found : setting.registry.get step.operation with
        | error error =>
            refine .inl ⟨error, ?_, fun rest => by simp only [runSteps, polling, found], .inr rfl⟩
            intro operation ready starts
            cases found.symm.trans starts.found
        | ok operation => exact .inr ⟨operation, polled, polling, found⟩

section Rounds

variable {setting : Setting} {before ready after : State} {step : Step} {operation : Operation}

theorem Starts.extends (starts : Starts setting before step operation ready) :
    Extends before [] ready := by
  simpa only [starts.unrequested] using poll_extends before

theorem runSteps_of_succeeded (starts : Starts setting before step operation ready)
    (succeeded : runStep setting step operation ready = (.ok (), after)) (rest : List Step) :
    runSteps setting (step :: rest) before = runSteps setting rest after := by
  simp only [runSteps, starts.unrequested, starts.found, succeeded]

theorem runSteps_of_failed (starts : Starts setting before step operation ready)
    {error : EngineError} (failed : runStep setting step operation ready = (.error error, after))
    (rest : List Step) : runSteps setting (step :: rest) before = (.error error, after) := by
  simp only [runSteps, starts.unrequested, starts.found, failed]

end Rounds

/-- A run that has steps left stops before the next one, or ends with it, or goes on after it. -/
theorem runSteps_cons_cases (setting : Setting) (step : Step) (rest : List Step) (state : State) :
    (∃ error stopped, Extends state [] stopped ∧
      (error = .cancelled (some step.id) ∨ setting.registry.get step.operation = .error error) ∧
      runSteps setting (step :: rest) state = (.error error, stopped)) ∨
    ∃ (trace : StepTrace) (operation : Operation) (ready : State), trace.step = step ∧
      Starts setting state step operation ready ∧ trace.LeftBy setting operation ready ∧
      Extends state [trace] (runStep setting step operation ready).2 ∧
      runSteps setting (step :: rest) state =
        if trace.result.success then
          runSteps setting rest (runStep setting step operation ready).2
        else (.error trace.failure, (runStep setting step operation ready).2) := by
  rcases round_cases setting step state with ⟨error, -, outcome, cause⟩ | ⟨operation, ready, starts⟩
  · exact .inl ⟨error, state.poll.2, poll_extends state, cause, outcome rest⟩
  · obtain ⟨trace, ofStep, extended, outcome, left⟩ := runStep_spec setting step operation ready
    refine .inr ⟨trace, operation, ready, ofStep, starts, left, starts.extends.trans extended, ?_⟩
    cases running : runStep setting step operation ready with
    | mk verdict after =>
      rw [running] at outcome
      cases success : trace.result.success with
      | true =>
          obtain rfl : verdict = .ok () := by simpa [success] using outcome
          exact runSteps_of_succeeded starts running rest
      | false =>
          obtain rfl : verdict = .error trace.failure := by simpa [success] using outcome
          exact runSteps_of_failed starts running rest

theorem Ends.cons {registry : Registry} {step : Step} {rest : List Step} {trace : StepTrace}
    {traces : List StepTrace} {verdict : Except EngineError Unit} (ofStep : trace.step = step)
    (success : trace.result.success = true) (ends : Ends registry rest traces verdict) :
    Ends registry (step :: rest) (trace :: traces) verdict := by
  subst ofStep
  cases ends with
  | completed all successful =>
      exact .completed (by simp [all]) (List.forall_mem_cons.mpr ⟨success, successful⟩)
  | @failed traces last ran successful unsuccessful =>
      rw [← List.cons_append]
      refine .failed ?_ (List.forall_mem_cons.mpr ⟨success, successful⟩) unsuccessful
      rw [List.cons_append, List.map_cons]
      exact List.cons_prefix_cons.mpr ⟨rfl, ran⟩
  | @stopped traces next later error left successful cause =>
      have left : trace.step :: rest = (trace :: traces).map (·.step) ++ next :: later := by
        rw [left, List.map_cons, List.cons_append]
      exact .stopped left (List.forall_mem_cons.mpr ⟨success, successful⟩) cause

theorem runSteps_spec (setting : Setting) (steps : List Step) (state : State) :
    ∃ traces, Extends state traces (runSteps setting steps state).2 ∧
      Ends setting.registry steps traces (runSteps setting steps state).1 ∧
      LeftFrom setting state traces := by
  induction steps generalizing state with
  | nil => exact ⟨[], .refl state, .completed rfl (by simp), .nothing⟩
  | cons step rest ih =>
      rcases runSteps_cons_cases setting step rest state with
        ⟨error, stopped, same, cause, outcome⟩ |
        ⟨trace, operation, ready, rfl, starts, left, extended, outcome⟩
      · rw [outcome]
        exact ⟨[], same, .stopped rfl (by simp) cause, .nothing⟩
      · rw [outcome]
        cases success : trace.result.success with
        | true =>
            obtain ⟨traces, further, ends, leftAfter⟩ :=
              ih (runStep setting trace.step operation ready).2
            exact ⟨trace :: traces, extended.trans further, ends.cons rfl success,
              .next starts left leftAfter⟩
        | false =>
            have ran : ([] ++ [trace]).map StepTrace.step <+: trace.step :: rest := by simp
            exact ⟨[trace], extended, .failed ran (by simp) success,
              .next starts left .nothing⟩

namespace Ends

variable {registry : Registry} {steps : List Step} {traces : List StepTrace}
  {verdict : Except EngineError Unit}

theorem steps_prefix (ends : Ends registry steps traces verdict) :
    traces.map (·.step) <+: steps := by
  cases ends with
  | completed all successful => exact all ▸ List.prefix_rfl
  | failed ran successful unsuccessful => exact ran
  | stopped left successful cause => exact ⟨_, left.symm⟩

theorem success_of_mem_dropLast (ends : Ends registry steps traces verdict) :
    ∀ trace ∈ traces.dropLast, trace.result.success = true := by
  cases ends with
  | completed all successful =>
      exact fun trace member => successful trace (List.mem_of_mem_dropLast member)
  | failed ran successful unsuccessful => simpa using successful
  | stopped left successful cause =>
      exact fun trace member => successful trace (List.mem_of_mem_dropLast member)

theorem eq_ok_iff (ends : Ends registry steps traces verdict) :
    verdict = .ok () ↔
      traces.length = steps.length ∧ ∀ trace ∈ traces, trace.result.success = true := by
  cases ends with
  | completed all successful => exact iff_of_true rfl ⟨by simp [← all], successful⟩
  | @failed traces last ran successful unsuccessful =>
      refine iff_of_false (by simp) fun both => ?_
      simpa [unsuccessful] using both.2 last (by simp)
  | stopped left successful cause =>
      refine iff_of_false (by simp) fun both => ?_
      simpa [left] using both.1

theorem eq_failure_of_last (ends : Ends registry steps traces verdict) {last : StepTrace}
    (isLast : traces.getLast? = some last) (unsuccessful : last.result.success = false) :
    verdict = .error last.failure := by
  cases ends with
  | completed all successful =>
      simp [successful last (List.mem_of_getLast? isLast)] at unsuccessful
  | failed ran successful fails =>
      obtain rfl : _ = last := by simpa using isLast
      rfl
  | stopped left successful cause =>
      simp [successful last (List.mem_of_getLast? isLast)] at unsuccessful

theorem exists_next_of_length_lt (ends : Ends registry steps traces verdict)
    (successful : ∀ trace ∈ traces, trace.result.success = true)
    (short : traces.length < steps.length) :
    ∃ next rest error, steps = traces.map (·.step) ++ next :: rest ∧ verdict = .error error ∧
      (error = .cancelled (some next.id) ∨ registry.get next.operation = .error error) := by
  cases ends with
  | completed all successful => simp [← all] at short
  | @failed traces last ran allSuccessful unsuccessful =>
      simp [successful last (by simp)] at unsuccessful
  | stopped left successful cause => exact ⟨_, _, _, left, rfl, cause⟩

end Ends

/-! ## Whole runs -/

/-- How a run came to an end: it never began, or its steps ended. -/
inductive RunEnds (registry : Registry) (pipeline : Pipeline) :
    List StepTrace → Except EngineError Unit → Prop where
  | refused {error : EngineError} (unplanned : plan registry pipeline = .error error) :
      RunEnds registry pipeline [] (.error error)
  | ran {sorted : List Step} {traces : List StepTrace} {verdict : Except EngineError Unit}
      (checked : Checked registry pipeline.steps) (ordered : order pipeline.steps = .ok sorted)
      (ends : Ends registry sorted traces verdict) : RunEnds registry pipeline traces verdict

theorem runPlan_spec (setting : Setting) (pipeline : Pipeline) (state : State) :
    ∃ traces, Extends state traces (runPlan setting pipeline state).2 ∧
      RunEnds setting.registry pipeline traces (runPlan setting pipeline state).1 ∧
      LeftFrom setting state traces := by
  unfold runPlan
  cases planned : plan setting.registry pipeline with
  | error error => exact ⟨[], .refl state, .refused planned, .nothing⟩
  | ok sorted =>
      obtain ⟨checked, ordered⟩ := plan_eq_ok_iff.mp planned
      obtain ⟨traces, extended, ends, left⟩ := runSteps_spec setting sorted state
      exact ⟨traces, extended, .ran checked ordered ends, left⟩

namespace RunEnds

variable {registry : Registry} {pipeline : Pipeline} {traces : List StepTrace}
  {verdict : Except EngineError Unit}

theorem steps_prefix (ends : RunEnds registry pipeline traces verdict) :
    traces = [] ∨ ∃ sorted, order pipeline.steps = .ok sorted ∧ traces.map (·.step) <+: sorted := by
  cases ends with
  | refused unplanned => exact .inl rfl
  | ran checked ordered ends => exact .inr ⟨_, ordered, ends.steps_prefix⟩

theorem success_of_mem_dropLast (ends : RunEnds registry pipeline traces verdict) :
    ∀ trace ∈ traces.dropLast, trace.result.success = true := by
  cases ends with
  | refused unplanned => simp
  | ran checked ordered ends => exact ends.success_of_mem_dropLast

/-- Only a pipeline with steps can be refused, so a refused run leaves out steps. -/
theorem steps_ne_nil_of_refused {error : EngineError}
    (unplanned : plan registry pipeline = .error error) : pipeline.steps ≠ [] := by
  intro none
  have wired : Wired [] := ⟨by simp, by simp⟩
  have planned : plan registry pipeline = .ok [] := by
    rw [plan_eq_ok_iff, none]
    exact ⟨⟨wired, by simp, by simp⟩, order_of_inputsFirst wired inputsFirst_nil⟩
  simp [planned] at unplanned

theorem eq_ok_iff (ends : RunEnds registry pipeline traces verdict) :
    verdict = .ok () ↔
      traces.length = pipeline.steps.length ∧ ∀ trace ∈ traces, trace.result.success = true := by
  cases ends with
  | refused unplanned =>
      refine iff_of_false (by simp) fun both => steps_ne_nil_of_refused unplanned ?_
      exact List.length_eq_zero_iff.mp both.1.symm
  | ran checked ordered ends =>
      obtain ⟨-, permutation⟩ := taken_of_order_eq_ok checked.toWired ordered
      rw [ends.eq_ok_iff, permutation.length_eq]

theorem eq_failure_of_last (ends : RunEnds registry pipeline traces verdict) {last : StepTrace}
    (isLast : traces.getLast? = some last) (unsuccessful : last.result.success = false) :
    verdict = .error last.failure := by
  cases ends with
  | refused unplanned => simp at isLast
  | ran checked ordered ends => exact ends.eq_failure_of_last isLast unsuccessful

/-- Operations of a checked pipeline are registered: only a request to cancel stops it between two
steps. -/
theorem refused_or_cancelled_of_length_lt (ends : RunEnds registry pipeline traces verdict)
    (successful : ∀ trace ∈ traces, trace.result.success = true)
    (short : traces.length < pipeline.steps.length) :
    (∃ error, traces = [] ∧ plan registry pipeline = .error error ∧ verdict = .error error) ∨
    ∃ next rest, order pipeline.steps = .ok (traces.map (·.step) ++ next :: rest) ∧
      verdict = .error (.cancelled (some next.id)) := by
  cases ends with
  | refused unplanned => exact .inl ⟨_, rfl, unplanned, rfl⟩
  | ran checked ordered ends =>
      obtain ⟨taken, permutation⟩ := taken_of_order_eq_ok checked.toWired ordered
      obtain ⟨next, rest, error, left, stopped, cause⟩ :=
        ends.exists_next_of_length_lt successful (permutation.length_eq ▸ short)
      subst left
      refine .inr ⟨next, rest, ordered, ?_⟩
      rcases cause with rfl | unregistered
      · exact stopped
      · have listed : next ∈ pipeline.steps := taken.listed (by simp)
        obtain ⟨operation, found⟩ := exists_get_of_contains (checked.registered next listed)
        simp [found] at unregistered

end RunEnds

theorem errorText?_eq_none_iff {verdict : Except EngineError Unit} :
    errorText? verdict = none ↔ verdict = .ok () := by
  cases verdict <;> simp [errorText?]

theorem failure_message (trace : StepTrace) :
    trace.failure.message = "Pipeline execution failed: Step '" ++ trace.step.displayName ++
      "' failed: " ++ trace.result.error.getD "unknown error" := by
  have unfolded : trace.failure.message = "Pipeline execution failed: " ++ ("Step '" ++
      trace.step.displayName ++ "' failed: " ++ trace.result.error.getD "unknown error") := rfl
  simp only [unfolded, ← String.append_assoc]
  rfl

theorem cancelled_message (step : String) :
    (EngineError.cancelled (some step)).message =
      "Execution cancelled in step '" ++ step ++ "'" := by
  have unfolded : (EngineError.cancelled (some step)).message =
      "Execution cancelled" ++ (" in step '" ++ step ++ "'") := rfl
  simp only [unfolded, ← String.append_assoc]
  rfl

/-- The events, the results and the error of a run agree: all three tell of the same steps, a prefix
of the order of the steps, of which only the last may be without success. Each step tells what its
operation tells when it is executed where the steps before have left off, and its result is what
that execution comes to. -/
theorem run_events_agree (registry : Registry) (environment : Environment) (pipeline : Pipeline)
    (bindings : Variables) (dryRun : Bool) (host : Host) :
    let setting : Setting :=
      ⟨registry, environment, pipeline.mergedVariables bindings, dryRun⟩
    let report := (run registry environment pipeline bindings dryRun host).1
    ∃ traces : List StepTrace, LeftFrom setting (.initial host) traces ∧
      report.events = traces.flatMap StepTrace.events ++
        [.finished report.success report.error] ∧
      report.results = traces.map (·.result) ∧
      (traces = [] ∨
        ∃ sorted, order pipeline.steps = .ok sorted ∧ traces.map (·.step) <+: sorted) ∧
      (∀ trace ∈ traces.dropLast, trace.result.success = true) ∧
      (report.success = true ↔
        traces.length = pipeline.steps.length ∧ ∀ trace ∈ traces, trace.result.success = true) ∧
      (report.error = none ↔ report.success = true) ∧
      (∀ last, traces.getLast? = some last → last.result.success = false →
        report.error = some ("Pipeline execution failed: Step '" ++ last.step.displayName ++
          "' failed: " ++ last.result.error.getD "unknown error")) ∧
      ((∀ trace ∈ traces, trace.result.success = true) →
        traces.length < pipeline.steps.length →
        (∃ error, traces = [] ∧ plan registry pipeline = .error error ∧
          report.error = some error.message) ∨
        ∃ next rest, order pipeline.steps = .ok (traces.map (·.step) ++ next :: rest) ∧
          report.error = some ("Execution cancelled in step '" ++ next.id ++ "'")) := by
  intro setting report
  obtain ⟨traces, extended, ends, left⟩ := runPlan_spec setting pipeline (.initial host)
  have errorIsNone : report.error = none ↔ report.success = true := Option.isNone_iff_eq_none.symm
  have errorIsText : report.error = errorText? _ := rfl
  refine ⟨traces, left, ?_, ?_, ends.steps_prefix, ends.success_of_mem_dropLast, ?_, errorIsNone,
    ?_, ?_⟩
  · exact congrArg (· ++ [.finished report.success report.error])
      (extended.events.trans (List.nil_append _))
  · exact extended.results.trans (List.nil_append _)
  · rw [← errorIsNone, ← ends.eq_ok_iff]
    exact errorText?_eq_none_iff
  · intro last isLast unsuccessful
    rw [← failure_message]
    exact congrArg errorText? (ends.eq_failure_of_last isLast unsuccessful)
  · intro successful short
    rcases ends.refused_or_cancelled_of_length_lt successful short with
      ⟨error, empty, unplanned, refused⟩ | ⟨next, rest, ordered, stopped⟩
    · exact .inl ⟨error, empty, unplanned, congrArg errorText? refused⟩
    · refine .inr ⟨next, rest, ordered, ?_⟩
      rw [← cancelled_message]
      exact congrArg errorText? stopped

end RdfPipeline.Pipeline
