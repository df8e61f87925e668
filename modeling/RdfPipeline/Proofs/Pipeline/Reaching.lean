import RdfPipeline.Proofs.Pipeline.Trace

/-!
# The states that a run comes to

A run comes to a step when all steps before it have succeeded. Whatever a run tells of the start of
a step, it tells in such a state, and what it recorded until then can be looked up.
-/

set_option autoImplicit false

namespace RdfPipeline.Pipeline

/-! ## Looking up results -/

/-- The positions of a ledger are positions of results, and they lead to the latest ones. -/
structure Ledger.Indexed (ledger : Ledger) : Prop where
  position_lt : ∀ step position, Dict.get? step ledger.positions = some position →
    position < ledger.results.length
  previous_lt : ∀ position, ledger.previous = some position → position < ledger.results.length
  latest : ∀ step, ledger.result? step = ledger.results.reverse.find? (·.step == step)
  last : ledger.previousResult? = ledger.results.getLast?

namespace Ledger

theorem indexed_empty : empty.Indexed := by
  constructor
  · intro step position found
    cases found
  · intro position found
    cases found
  · intro step
    rfl
  · rfl

theorem result?_record {ledger : Ledger} (indexed : ledger.Indexed) (result : StepResult)
    (step : String) :
    (ledger.record result).result? step =
      if step = result.step then some result else ledger.result? step := by
  unfold result?
  simp only [record, Dict.get?_insert]
  split
  · simp
  · cases found : Dict.get? step ledger.positions with
    | none => rfl
    | some position => exact List.getElem?_append_left (indexed.position_lt step position found)

theorem previousResult?_record (ledger : Ledger) (result : StepResult) :
    (ledger.record result).previousResult? = some result := by
  simp [previousResult?, record]

theorem Indexed.record {ledger : Ledger} (indexed : ledger.Indexed) (result : StepResult) :
    (ledger.record result).Indexed := by
  have longer : (ledger.record result).results.length = ledger.results.length + 1 := by
    simp [Ledger.record]
  constructor
  · intro step position found
    rw [longer]
    simp only [Ledger.record, Dict.get?_insert] at found
    split at found
    · cases found
      exact Nat.lt_succ_self _
    · exact Nat.lt_succ_of_lt (indexed.position_lt step position found)
  · intro position found
    rw [longer]
    cases found
    exact Nat.lt_succ_self _
  · intro step
    rw [result?_record indexed, indexed.latest]
    by_cases same : step = result.step
    · simp [Ledger.record, same]
    · simp [Ledger.record, same, Ne.symm same]
  · rw [previousResult?_record]
    simp [Ledger.record]

theorem indexed_foldl_record {ledger : Ledger} (indexed : ledger.Indexed)
    (results : List StepResult) : (results.foldl Ledger.record ledger).Indexed := by
  induction results generalizing ledger with
  | nil => exact indexed
  | cons result rest ih => exact ih (indexed.record result)

/-- A step that has a result is looked up with success. -/
theorem Indexed.exists_result {ledger : Ledger} (indexed : ledger.Indexed) {step : String}
    (recorded : step ∈ ledger.results.map (·.step)) :
    ∃ result ∈ ledger.results, ledger.result? step = some result ∧ result.step = step := by
  obtain ⟨known, knownMember, knownStep⟩ := List.mem_map.mp recorded
  have present : (ledger.result? step).isSome = true := by
    rw [indexed.latest, List.find?_isSome]
    exact ⟨known, List.mem_reverse.mpr knownMember, by simpa using knownStep⟩
  obtain ⟨result, found⟩ := Option.isSome_iff_exists.mp present
  have searched := (indexed.latest step).symm.trans found
  have member := List.mem_reverse.mp (List.mem_of_find?_eq_some searched)
  exact ⟨result, member, found, by simpa using List.find?_some searched⟩

end Ledger

/-! ## Rounds -/

/-- A step that ran tells of no start but its own. -/
theorem StepTrace.started_mem_events_iff (trace : StepTrace) {id name : String} :
    .started id name ∈ trace.events ↔ trace.step.id = id ∧ trace.step.displayName = name := by
  have notTold : .started id name ∉ trace.told := by
    intro member
    exact trace.told_of_step _ member
  simp [events, notTold, eq_comm]

/-- The steps that ran from the start have succeeded, one after the other. -/
inductive Reaches (setting : Setting) (start : State) : List Step → State → Prop where
  | start : Reaches setting start [] start
  | next {ran : List Step} {step : Step} {operation : Operation} {before ready after : State}
      (reached : Reaches setting start ran before)
      (starts : Starts setting before step operation ready)
      (succeeded : runStep setting step operation ready = (.ok (), after)) :
      Reaches setting start (ran ++ [step]) after

/-- A run of a pipeline on a host has come to a step, which it executes in the given state. -/
structure AboutToRun (setting : Setting) (pipeline : Pipeline) (host : Host) (ran : List Step)
    (step : Step) (rest : List Step) (operation : Operation) (ready : State) : Prop where
  planned : plan setting.registry pipeline = .ok (ran ++ step :: rest)
  reached : ∃ before, Reaches setting (.initial host) ran before ∧
    Starts setting before step operation ready

section Rounds

variable {setting : Setting} {before ready : State} {step : Step} {operation : Operation}

theorem Starts.host_eq (starts : Starts setting before step operation ready) :
    ready.host = before.host.poll.2 := by
  have polled : before.poll.2 = ready := congrArg Prod.snd starts.unrequested
  rw [← polled]
  rfl

theorem Starts.metrics_eq (starts : Starts setting before step operation ready) :
    ready.metrics = before.metrics := by
  have polled : before.poll.2 = ready := congrArg Prod.snd starts.unrequested
  rw [← polled]
  rfl

theorem Starts.unique {ready' : State} {operation' : Operation}
    (starts : Starts setting before step operation ready)
    (again : Starts setting before step operation' ready') :
    operation = operation' ∧ ready = ready' :=
  ⟨Except.ok.inj (starts.found.symm.trans again.found),
    congrArg Prod.snd (starts.unrequested.symm.trans again.unrequested)⟩

/-- Once a step starts, it is the next one that leaves a trace. -/
theorem exists_traces_of_starts (starts : Starts setting before step operation ready)
    (rest : List Step) :
    ∃ trace traces, trace.step = step ∧
      Extends before (trace :: traces) (runSteps setting (step :: rest) before).2 := by
  obtain ⟨trace, ofStep, ran, -⟩ := runStep_spec setting step operation ready
  cases running : runStep setting step operation ready with
  | mk verdict after =>
    rw [running] at ran
    cases verdict with
    | error error =>
        rw [runSteps_of_failed starts running]
        exact ⟨trace, [], ofStep, starts.extends.trans ran⟩
    | ok done =>
        rw [runSteps_of_succeeded starts running]
        obtain ⟨traces, further, -⟩ := runSteps_spec setting rest after
        exact ⟨trace, traces, ofStep, (starts.extends.trans ran).trans further⟩

end Rounds

/-! ## Runs -/

namespace Reaches

variable {setting : Setting} {start state : State} {ran : List Step}

theorem runSteps_append (reached : Reaches setting start ran state) (rest : List Step) :
    runSteps setting (ran ++ rest) start = runSteps setting rest state := by
  induction reached generalizing rest with
  | start => rfl
  | next _ starts succeeded ih =>
      rw [List.append_assoc, List.singleton_append, ih, runSteps_of_succeeded starts succeeded]

theorem append_of_runSteps_eq_ok (reached : Reaches setting start ran state) {rest : List Step}
    {final : State} (completed : runSteps setting rest state = (.ok (), final)) :
    Reaches setting start (ran ++ rest) final := by
  induction rest generalizing ran state with
  | nil =>
      cases completed
      rwa [List.append_nil]
  | cons step rest ih =>
      rcases round_cases setting step state with
        ⟨error, -, outcome, -⟩ | ⟨operation, ready, starts⟩
      · rw [outcome] at completed
        cases completed
      · cases running : runStep setting step operation ready with
        | mk verdict after =>
          cases verdict with
          | error error =>
              rw [runSteps_of_failed starts running] at completed
              cases completed
          | ok done =>
              rw [runSteps_of_succeeded starts running] at completed
              simpa using ih (reached.next starts running) completed

theorem exists_traces (reached : Reaches setting start ran state) :
    ∃ traces : List StepTrace, Extends start traces state ∧ traces.map (·.step) = ran ∧
      ∀ trace ∈ traces, trace.result.success = true := by
  induction reached with
  | start => exact ⟨[], .refl start, rfl, by simp⟩
  | @next ran step operation before ready after _ starts succeeded ih =>
      obtain ⟨traces, extended, ofSteps, successful⟩ := ih
      obtain ⟨trace, ofStep, ranStep, outcome, -⟩ := runStep_spec setting step operation ready
      rw [succeeded] at ranStep outcome
      have success : trace.result.success = true := by
        by_contra unsuccessful
        simp [unsuccessful] at outcome
      refine ⟨traces ++ [trace], extended.trans (starts.extends.trans ranStep), ?_, ?_⟩
      · simp [ofSteps, ofStep]
      · exact List.forall_mem_append.mpr ⟨successful, by simpa using success⟩

/-- When a later step starts, no request to cancel was found at the start. -/
theorem poll_start (reached : Reaches setting start ran state) {step : Step}
    {operation : Operation} {ready : State} (starts : Starts setting state step operation ready) :
    start.poll.1 = false := by
  induction reached generalizing step operation ready with
  | start => rw [starts.unrequested]
  | next _ earlier _ ih => exact ih earlier

end Reaches

theorem runSteps_eq_ok_iff {setting : Setting} {steps : List Step} {start final : State} :
    runSteps setting steps start = (.ok (), final) ↔ Reaches setting start steps final := by
  constructor
  · intro completed
    exact Reaches.start.append_of_runSteps_eq_ok completed
  · intro reached
    have whole := reached.runSteps_append []
    rwa [List.append_nil] at whole

theorem Reaches.unique {setting : Setting} {start first second : State} {ran : List Step}
    (reached : Reaches setting start ran first) (again : Reaches setting start ran second) :
    first = second :=
  congrArg Prod.snd ((runSteps_eq_ok_iff.mpr reached).symm.trans (runSteps_eq_ok_iff.mpr again))

theorem id_not_mem_of_nodup {ran rest : List Step} {step : Step}
    (distinct : ((ran ++ step :: rest).map (·.id)).Nodup) : step.id ∉ ran.map (·.id) := by
  intro member
  rw [List.map_append, List.nodup_append] at distinct
  exact distinct.2.2 _ member _ (by simp) rfl

/-- What has been recorded when a run comes to a state. -/
structure Recorded (ran : List Step) (ledger : Ledger) : Prop where
  indexed : ledger.Indexed
  steps : ledger.results.map (·.step) = ran.map (·.id)
  successful : ∀ result ∈ ledger.results, result.success = true

/-- The step that ran last has left the last result, which is the one that is found for it. -/
theorem Recorded.last {ran : List Step} {ledger : Ledger} (recorded : Recorded ran ledger)
    {step : Step} (isLast : ran.getLast? = some step) :
    ∃ previous, ledger.results.getLast? = some previous ∧ previous.step = step.id ∧
      ledger.result? step.id = some previous := by
  have lastStep := congrArg List.getLast? recorded.steps
  rw [List.getLast?_map, List.getLast?_map, isLast, Option.map_some,
    Option.map_eq_some_iff] at lastStep
  obtain ⟨previous, lastResult, same⟩ := lastStep
  refine ⟨previous, lastResult, same, ?_⟩
  obtain ⟨front, results⟩ := List.getLast?_eq_some_iff.mp lastResult
  rw [recorded.indexed.latest, results]
  simp [same]

theorem Reaches.recorded {setting : Setting} {host : Host} {ran : List Step} {state : State}
    (reached : Reaches setting (.initial host) ran state) : Recorded ran state.ledger := by
  obtain ⟨traces, extended, rfl, successful⟩ := reached.exists_traces
  have results : state.ledger.results = traces.map (·.result) := extended.results
  refine ⟨?_, ?_, ?_⟩
  · rw [extended.ledger]
    exact Ledger.indexed_foldl_record Ledger.indexed_empty _
  · rw [results, List.map_map, List.map_map]
    exact List.map_congr_left fun trace _ => trace.result_of_step
  · rw [results]
    exact List.forall_mem_map.mpr successful

namespace AboutToRun

variable {setting : Setting} {pipeline : Pipeline} {host : Host} {ran rest : List Step}
  {step : Step} {operation : Operation} {ready : State}

theorem recorded (about : AboutToRun setting pipeline host ran step rest operation ready) :
    Recorded ran ready.ledger := by
  obtain ⟨before, reached, starts⟩ := about.reached
  rw [starts.extends.ledger]
  exact reached.recorded

theorem checked (about : AboutToRun setting pipeline host ran step rest operation ready) :
    Checked setting.registry pipeline.steps :=
  (plan_eq_ok_iff.mp about.planned).1

theorem taken (about : AboutToRun setting pipeline host ran step rest operation ready) :
    Taken pipeline.steps (ran ++ step :: rest) ∧ (ran ++ step :: rest).Perm pipeline.steps := by
  obtain ⟨checked, ordered⟩ := plan_eq_ok_iff.mp about.planned
  exact taken_of_order_eq_ok checked.toWired ordered

theorem runPlan_eq (about : AboutToRun setting pipeline host ran step rest operation ready) :
    ∃ before, Starts setting before step operation ready ∧
      Reaches setting (.initial host) ran before ∧
      runPlan setting pipeline (.initial host) = runSteps setting (step :: rest) before := by
  obtain ⟨before, reached, starts⟩ := about.reached
  refine ⟨before, starts, reached, ?_⟩
  simp only [runPlan, about.planned]
  exact reached.runSteps_append (step :: rest)

end AboutToRun

/-- What the events tell of the start of steps is where the run has come to. -/
theorem exists_reaches_of_started {setting : Setting} {id name : String} {start state : State}
    {ran rest : List Step} (reached : Reaches setting start ran state)
    (told : .started id name ∈ (runSteps setting rest state).2.events)
    (new : .started id name ∉ state.events) :
    ∃ ran' step rest' before operation ready, ran ++ rest = ran' ++ step :: rest' ∧
      step.id = id ∧ step.displayName = name ∧ Reaches setting start ran' before ∧
      Starts setting before step operation ready := by
  induction rest generalizing ran state with
  | nil => exact absurd told new
  | cons step rest ih =>
      rcases round_cases setting step state with
        ⟨error, -, outcome, -⟩ | ⟨operation, ready, starts⟩
      · rw [outcome, (poll_extends state).events] at told
        exact absurd (by simpa using told) new
      · by_cases this : step.id = id ∧ step.displayName = name
        · exact ⟨ran, step, rest, state, operation, ready, rfl, this.1, this.2, reached, starts⟩
        · obtain ⟨trace, rfl, ranStep, -⟩ := runStep_spec setting step operation ready
          have stillNew : .started id name ∉
              (runStep setting trace.step operation ready).2.events := by
            rw [ranStep.events, starts.extends.events]
            simpa [trace.started_mem_events_iff, this] using new
          cases running : runStep setting trace.step operation ready with
          | mk verdict after =>
            rw [running] at stillNew
            cases verdict with
            | error error =>
                rw [runSteps_of_failed starts running] at told
                exact absurd told stillNew
            | ok done =>
                rw [runSteps_of_succeeded starts running] at told
                simpa using ih (reached.next starts running) told stillNew

theorem started_iff_aboutToRun {setting : Setting} {pipeline : Pipeline} {host : Host}
    {id name : String} :
    .started id name ∈ (runPlan setting pipeline (.initial host)).2.events ↔
      ∃ ran step rest operation ready, step.id = id ∧ step.displayName = name ∧
        AboutToRun setting pipeline host ran step rest operation ready := by
  constructor
  · intro told
    cases planned : plan setting.registry pipeline with
    | error error =>
        simp only [runPlan, planned] at told
        exact absurd told List.not_mem_nil
    | ok sorted =>
        simp only [runPlan, planned] at told
        obtain ⟨ran, step, rest, before, operation, ready, rfl, ofId, ofName, reached, starts⟩ :=
          exists_reaches_of_started .start told List.not_mem_nil
        exact ⟨ran, step, rest, operation, ready, ofId, ofName, planned, before, reached, starts⟩
  · rintro ⟨ran, step, rest, operation, ready, rfl, rfl, about⟩
    obtain ⟨before, starts, -, same⟩ := about.runPlan_eq
    obtain ⟨trace, traces, rfl, extended⟩ := exists_traces_of_starts starts rest
    rw [same, extended.events]
    simp [trace.started_mem_events_iff]

theorem run_started_iff {registry : Registry} {environment : Environment} {pipeline : Pipeline}
    {bindings : Variables} {dryRun : Bool} {host : Host} {id name : String} :
    .started id name ∈ (run registry environment pipeline bindings dryRun host).1.events ↔
      ∃ ran step rest operation ready, step.id = id ∧ step.displayName = name ∧
        AboutToRun ⟨registry, environment, pipeline.mergedVariables bindings, dryRun⟩ pipeline host
          ran step rest operation ready := by
  rw [← started_iff_aboutToRun]
  exact List.mem_append.trans (or_iff_left (by simp))

/-- A report says nothing of its own but the id of the pipeline. -/
theorem run_congr {registry registry' : Registry} {environment : Environment}
    {pipeline pipeline' : Pipeline} {bindings : Variables} {dryRun : Bool} {host : Host}
    (sameId : pipeline.id = pipeline'.id)
    (same : runPlan ⟨registry, environment, pipeline.mergedVariables bindings, dryRun⟩ pipeline
        (.initial host) =
      runPlan ⟨registry', environment, pipeline'.mergedVariables bindings, dryRun⟩ pipeline'
        (.initial host)) :
    run registry environment pipeline bindings dryRun host =
      run registry' environment pipeline' bindings dryRun host := by
  simp only [run, same, sameId]

end RdfPipeline.Pipeline
