import RdfPipeline.Proofs.Operation.FileIndependence
import RdfPipeline.Proofs.Pipeline.SideBySide

/-!
# Dry runs

A dry run passes over the output steps. Where those leave nothing behind that another step sees, it
is a rehearsal of the real run: the same steps in the same order with the same results.
-/

set_option autoImplicit false

namespace RdfPipeline

/-- Whether an id stands for an output operation. -/
def Registry.isOutput (registry : Registry) (id : String) : Bool :=
  (registry.get? id).any (·.type == .output)

/-- What the streams and graphs that are handed on hold. -/
def Host.contentsOf (host : Host) (payload : Pipeline.Payload) :
    Option (Option Stream.Cursor) × Option Rdf.Graph :=
  (payload.stream.map host.contents, payload.graph.map (·.graph))

namespace Pipeline

/-! ## Output operations in a dry run -/

/-- Registries that offer the same operations, but for what their output operations are. -/
def AgreeButOutputs (left right : Registry) : Prop :=
  ∀ id, Option.Rel (fun operation operation' => operation = operation' ∨
    operation.type = .output ∧ operation'.type = .output) (left.get? id) (right.get? id)

namespace AgreeButOutputs

variable {registry other : Registry}

theorem contains_eq (agree : AgreeButOutputs registry other) (id : String) :
    other.contains id = registry.contains id := by
  have same := agree id
  unfold Registry.contains Dict.contains
  unfold Registry.get? at same
  generalize Dict.get? id registry.byId = found at same
  generalize Dict.get? id other.byId = found' at same
  cases same <;> rfl

theorem plan_eq (agree : AgreeButOutputs registry other) (pipeline : Pipeline) :
    plan other pipeline = plan registry pipeline := by
  have sameChecks : ∀ ids, checkStep other ids = checkStep registry ids := by
    intro ids
    funext step
    unfold checkStep
    rw [agree.contains_eq]
  unfold plan validate
  rw [sameChecks]

theorem get_cases (agree : AgreeButOutputs registry other) (id : String) :
    other.get id = registry.get id ∨
    ∃ operation operation', registry.get id = .ok operation ∧ other.get id = .ok operation' ∧
      operation.type = .output ∧ operation'.type = .output := by
  have same := agree id
  unfold Registry.get
  generalize registry.get? id = found at same
  generalize other.get? id = found' at same
  cases same with
  | none => exact .inl rfl
  | @some operation operation' either =>
      rcases either with rfl | ⟨isOutput, isOutput'⟩
      · exact .inl rfl
      · exact .inr ⟨operation, operation', rfl, rfl, isOutput, isOutput'⟩

end AgreeButOutputs

/-- The setting of the dry run. -/
def Setting.rehearsal (setting : Setting) : Setting :=
  { setting with dryRun := true }

theorem leavesOut_rehearsal {setting : Setting} {operation : Operation} :
    setting.rehearsal.leavesOut operation = true ↔ operation.type = .output := by
  simp [Setting.leavesOut, Setting.rehearsal]

theorem begin_of_type_eq {step : Step} {operation operation' : Operation}
    (same : operation.type = operation'.type) (state : State) :
    state.begin step operation = state.begin step operation' := by
  rw [State.begin, State.begin, same]

/-- A dry run of a step does the same whatever its output operation is. -/
theorem runStep_rehearsal_of_outputs {setting : Setting} {operation operation' : Operation}
    (isOutput : operation.type = .output) (isOutput' : operation'.type = .output) (step : Step)
    (state : State) :
    runStep setting.rehearsal step operation state =
      runStep setting.rehearsal step operation' state := by
  rw [runStep_of_leavesOut (leavesOut_rehearsal.mpr isOutput),
    runStep_of_leavesOut (leavesOut_rehearsal.mpr isOutput'),
    begin_of_type_eq (isOutput.trans isOutput'.symm)]

theorem runSteps_rehearsal_of_agree {setting : Setting} {other : Registry}
    (agree : AgreeButOutputs setting.registry other) (steps : List Step) (state : State) :
    runSteps { setting.rehearsal with registry := other } steps state =
      runSteps setting.rehearsal steps state := by
  induction steps generalizing state with
  | nil => rfl
  | cons step rest ih =>
      have sameStep : ∀ operation state, runStep { setting.rehearsal with registry := other }
          step operation state = runStep setting.rehearsal step operation state :=
        fun _ _ => rfl
      have sameRegistry : setting.rehearsal.registry = setting.registry := rfl
      rcases agree.get_cases step.operation with
        same | ⟨operation, operation', found, found', isOutput, isOutput'⟩
      · simp only [runSteps, same, sameRegistry, sameStep, ih]
      · simp only [runSteps, found, found', sameRegistry, sameStep, ih,
          runStep_rehearsal_of_outputs isOutput isOutput']

theorem runPlan_rehearsal_of_agree {setting : Setting} {other : Registry}
    (agree : AgreeButOutputs setting.registry other) (pipeline : Pipeline) (state : State) :
    runPlan { setting.rehearsal with registry := other } pipeline state =
      runPlan setting.rehearsal pipeline state := by
  have samePlan := agree.plan_eq pipeline
  have sameRegistry : setting.rehearsal.registry = setting.registry := rfl
  cases planned : plan setting.registry pipeline with
  | error error =>
      rw [planned] at samePlan
      simp only [runPlan, samePlan, sameRegistry, planned]
  | ok sorted =>
      rw [planned] at samePlan
      simp only [runPlan, samePlan, sameRegistry, planned]
      exact runSteps_rehearsal_of_agree agree sorted state

/-- An output step that a dry run starts has its place in the report, with the result of a step that
is left out. -/
theorem AboutToRun.result?_of_leavesOut {setting : Setting} {pipeline : Pipeline} {host : Host}
    {ran rest : List Step} {step : Step} {operation : Operation} {ready : State}
    (about : AboutToRun setting pipeline host ran step rest operation ready)
    (left : setting.leavesOut operation = true) :
    (runPlan setting pipeline (.initial host)).2.results.find? (·.step == step.id) =
      some (.leftOut step) := by
  obtain ⟨before, starts, -, same⟩ := about.runPlan_eq
  have effect := @effect_of_leftOut setting step operation left ready
  cases running : runStep setting step operation ready with
  | mk verdict after =>
    rw [running] at effect
    obtain rfl : verdict = .ok () := effect.ok_iff.mpr rfl
    rw [same, runSteps_of_succeeded starts running]
    obtain ⟨traces, further, -⟩ := runSteps_spec setting rest after
    have new : step.id ∉ ready.results.map (·.step) := by
      rw [State.results, about.recorded.steps]
      exact id_not_mem_of_nodup about.taken.1.distinct
    have unfound : ready.results.find? (·.step == step.id) = none := by
      rw [List.find?_eq_none]
      intro result member same
      exact new (List.mem_map.mpr ⟨result, member, by simpa using same⟩)
    have isOfStep : (StepResult.leftOut step).step = step.id := rfl
    rw [further.results, State.results, effect.ledger]
    simp [Ledger.record, unfound, isOfStep]

/-! ## The rehearsal -/

/-- The invocation of an output step in a run hands nothing on and leaves the host as it was, as far
as the view goes. -/
structure Unseen {setting : Setting} {covered : Step → Operation → Prop}
    (view : View setting covered) (step : Step) (operation : Operation) (ready : State) : Prop where
  handsOnNothing : ∀ result, (execution setting step operation ready).1 = .ok result →
    result.outputStream = none ∧ result.outputGraph = none
  alike : ∀ pairing other, view.alike pairing (ready.begin step operation).2.host other →
    view.alike pairing (execution setting step operation ready).2.host other

/-- Steps whose operations a dry run invokes. -/
def Invokes (registry : Registry) (pipeline : Pipeline) (step : Step) (operation : Operation) :
    Prop :=
  step ∈ pipeline.steps ∧ registry.get step.operation = .ok operation ∧ operation.type ≠ .output

/-- What a dry run makes of a result: the same, or for an output step one that hands on as little. -/
inductive Rehearses (registry : Registry) (pairing : Pairing) (real dry : StepResult) : Prop where
  | invoked (pairs : StepResult.Pairs pairing real dry)
  | leftOut (isOutput : registry.isOutput real.operation = true) (step : real.step = dry.step)
      (operation : real.operation = dry.operation) (success : real.success = dry.success)
      (nothing : real.output = .nothing) (nothing' : dry.output = .nothing)

namespace Rehearses

variable {registry : Registry} {pairing : Pairing} {real dry : StepResult}

theorem step (rehearses : Rehearses registry pairing real dry) : real.step = dry.step := by
  cases rehearses with
  | invoked pairs => exact pairs.step
  | leftOut _ step => exact step

theorem output (rehearses : Rehearses registry pairing real dry) :
    Payload.Pairs pairing real.output dry.output := by
  cases rehearses with
  | invoked pairs => exact pairs.output
  | leftOut _ _ _ _ nothing nothing' =>
      rw [nothing, nothing']
      exact .nothing pairing

theorem mono {larger : Pairing} (within : pairing.Within larger)
    (rehearses : Rehearses registry pairing real dry) : Rehearses registry larger real dry := by
  cases rehearses with
  | invoked pairs => exact .invoked { pairs with output := pairs.output.mono within }
  | leftOut isOutput step operation success nothing nothing' =>
      exact .leftOut isOutput step operation success nothing nothing'

end Rehearses

/-- The results agree in all that a reader of the reports can see, but for what an output step says
of itself. -/
structure Reproduced (registry : Registry) (host host' : Host) (real dry : StepResult) :
    Prop where
  step : dry.step = real.step
  operation : dry.operation = real.operation
  success : dry.success = real.success
  contents : host'.contentsOf dry.output = host.contentsOf real.output
  metadata : registry.isOutput real.operation = false → dry.metadata = real.metadata
  error : registry.isOutput real.operation = false → dry.error = real.error

section Rehearsal

variable {setting : Setting} {pipeline : Pipeline}
  {view : View setting (Invokes setting.registry pipeline)}

/-- The state of a dry run that has come as far as the real one. -/
structure Mirrors (view : View setting (Invokes setting.registry pipeline)) (pairing : Pairing)
    (real dry : State) : Prop where
  hosts : view.alike pairing real.host dry.host
  ledgers : Ledger.Pairs (Rehearses setting.registry pairing) real.ledger dry.ledger

theorem contentsOf_eq {pairing : Pairing} {host host' : Host}
    (alike : view.alike pairing host host') {payload payload' : Payload}
    (pairs : Payload.Pairs pairing payload payload') :
    host'.contentsOf payload' = host.contentsOf payload := by
  obtain ⟨stream, graph⟩ := pairs
  refine Prod.ext ?_ ?_
  · change payload'.stream.map host'.contents = payload.stream.map host.contents
    generalize payload.stream = handed at stream
    generalize payload'.stream = handed' at stream
    cases stream with
    | none => rfl
    | some paired => simp only [Option.map_some, view.contents_eq alike paired]
  · change payload'.graph.map (·.graph) = payload.graph.map (·.graph)
    generalize payload.graph = handed at graph
    generalize payload'.graph = handed' at graph
    cases graph with
    | none => rfl
    | some paired => simp only [Option.map_some, view.graph_eq alike paired]

theorem Rehearses.reproduced {pairing : Pairing} {host host' : Host} {real dry : StepResult}
    (rehearses : Rehearses setting.registry pairing real dry)
    (alike : view.alike pairing host host') :
    Reproduced setting.registry host host' real dry := by
  have contents := contentsOf_eq alike rehearses.output
  cases rehearses with
  | invoked pairs =>
      exact ⟨pairs.step.symm, pairs.operation.symm, pairs.success.symm, contents,
        fun _ => pairs.metadata.symm, fun _ => pairs.error.symm⟩
  | leftOut isOutput step operation success =>
      refine ⟨step.symm, operation.symm, success.symm, contents, fun noOutput => ?_,
        fun noOutput => ?_⟩
      · rw [isOutput] at noOutput
        cases noOutput
      · rw [isOutput] at noOutput
        cases noOutput

theorem Mirrors.reproduced {pairing : Pairing} {real dry : State}
    (mirrors : Mirrors view pairing real dry) :
    List.Forall₂ (Reproduced setting.registry real.host dry.host) real.results dry.results :=
  mirrors.ledgers.results.imp fun _ _ rehearses => rehearses.reproduced mirrors.hosts

/-! ### Steps of the rehearsal -/

theorem isOutput_of_found {registry : Registry} {id : String} {operation : Operation}
    (found : registry.get id = .ok operation) :
    registry.isOutput id = true ↔ operation.type = .output := by
  unfold Registry.isOutput
  rw [Registry.get_eq_ok_iff.mp found]
  simp

theorem leavesOut_of_live {operation : Operation} (live : setting.dryRun = false) :
    setting.leavesOut operation = false := by
  simp [Setting.leavesOut, live]

theorem invocationResult_operation (step : Step) (outcome : Except EngineError OperationResult) :
    (invocationResult step outcome).operation = step.operation := by
  cases outcome <;> rfl

theorem Unseen.output_eq_nothing {step : Step} {operation : Operation} {ready : State}
    (unseen : Unseen view step operation ready) :
    (invocationResult step (execution setting step operation ready).1).output = .nothing := by
  cases outcome : (execution setting step operation ready).1 with
  | error error => rfl
  | ok result =>
      obtain ⟨noStream, noGraph⟩ := unseen.handsOnNothing result outcome
      change Payload.mk result.outputStream result.outputGraph = _
      rw [noStream, noGraph]
      rfl

variable {step : Step} {operation : Operation} {pairing : Pairing} {real dry : State}

/-- An output step of the real run leaves nothing behind that the dry run lacks. -/
theorem effect_of_unseen (mirrors : Mirrors view pairing real dry)
    (found : setting.registry.get step.operation = .ok operation)
    (isOutput : operation.type = .output) (unseen : Unseen view step operation real)
    (successful : (invocationResult step (execution setting step operation real).1).success = true) :
    ∃ larger, pairing.Within larger ∧
      Rehearses setting.registry larger
        (invocationResult step (execution setting step operation real).1) (.leftOut step) ∧
      view.alike larger (execution setting step operation real).2.host
        (dry.begin step operation).2.host := by
  -- Also the dry run looks up the input, and forms the union of its graphs, before it passes on.
  obtain ⟨larger, within, -, alike⟩ :=
    view.begin mirrors.hosts mirrors.ledgers (fun _ _ => Rehearses.output) step operation
  refine ⟨larger, within, ?_, unseen.alike larger _ alike⟩
  refine .leftOut ?_ (invocationResult_step step _) (invocationResult_operation step _) successful
    unseen.output_eq_nothing rfl
  rw [invocationResult_operation]
  exact (isOutput_of_found found).mpr isOutput

theorem effect_of_covered (mirrors : Mirrors view pairing real dry)
    (covered : Invokes setting.registry pipeline step operation) :
    ∃ larger, pairing.Within larger ∧
      StepResult.Pairs larger (invocationResult step (execution setting step operation real).1)
        (invocationResult step (execution setting.rehearsal step operation dry).1) ∧
      view.alike larger (execution setting step operation real).2.host
        (execution setting.rehearsal step operation dry).2.host := by
  obtain ⟨middle, within, received, alike⟩ :=
    view.begin mirrors.hosts mirrors.ledgers (fun _ _ => Rehearses.output) step operation
  obtain ⟨larger, further, results, stillAlike⟩ := view.execute covered alike received
  exact ⟨larger, within.trans further, results, stillAlike⟩

/-- Steps of the two runs that have these results and hosts keep them side by side. -/
theorem Mirrors.of_effects (mirrors : Mirrors view pairing real dry) {larger : Pairing}
    (within : pairing.Within larger) {result result' : StepResult} {host host' : Host}
    {verdict verdict' : Except EngineError Unit} {after after' : State}
    (effect : Effect step real result host verdict after)
    (effect' : Effect step dry result' host' verdict' after')
    (rehearses : Rehearses setting.registry larger result result')
    (alike : view.alike larger host host') : Mirrors view larger after after' := by
  refine ⟨?_, ?_⟩
  · rw [effect.host, effect'.host]
    exact alike
  · rw [effect.ledger, effect'.ledger]
    exact (mirrors.ledgers.mono fun _ _ => Rehearses.mono within).record rehearses.step rehearses

theorem runStep_rehearsal (live : setting.dryRun = false) (listed : step ∈ pipeline.steps)
    (mirrors : Mirrors view pairing real dry)
    (found : setting.registry.get step.operation = .ok operation)
    (unseen : operation.type = .output → Unseen view step operation real) {after : State}
    (succeeded : runStep setting step operation real = (.ok (), after)) :
    ∃ larger after', runStep setting.rehearsal step operation dry = (.ok (), after') ∧
      Mirrors view larger after after' := by
  have effect := @effect_of_invoked setting step operation (leavesOut_of_live live) real
  rw [succeeded] at effect
  have successful := effect.ok_iff.mp rfl
  by_cases isOutput : operation.type = .output
  · have effect' := @effect_of_leftOut setting.rehearsal step operation
      (leavesOut_rehearsal.mpr isOutput) dry
    obtain ⟨larger, within, rehearses, alike⟩ :=
      effect_of_unseen mirrors found isOutput (unseen isOutput) successful
    refine ⟨larger, _, Prod.ext (effect'.ok_iff.mpr rfl) rfl, ?_⟩
    exact mirrors.of_effects within effect effect' rehearses alike
  · have invoked : setting.rehearsal.leavesOut operation = false := by
      rw [Bool.eq_false_iff, ne_eq, leavesOut_rehearsal]
      exact isOutput
    have effect' := @effect_of_invoked setting.rehearsal step operation invoked dry
    obtain ⟨larger, within, pairs, alike⟩ := effect_of_covered mirrors ⟨listed, found, isOutput⟩
    refine ⟨larger, _, Prod.ext (effect'.ok_iff.mpr (pairs.success ▸ successful)) rfl, ?_⟩
    exact mirrors.of_effects within effect effect' (.invoked pairs) alike

theorem Mirrors.starts (mirrors : Mirrors view pairing real dry) {ready : State}
    (starts : Starts setting real step operation ready) :
    ∃ ready', Starts setting.rehearsal dry step operation ready' ∧
      Mirrors view pairing ready ready' := by
  have sameRegistry : setting.rehearsal.registry = setting.registry := rfl
  obtain ⟨starts', alike⟩ := view.starts mirrors.hosts sameRegistry starts
  refine ⟨_, starts', alike, ?_⟩
  rw [starts.extends.ledger, starts'.extends.ledger]
  exact mirrors.ledgers

/-! ### Runs of the rehearsal -/

/-- The output steps that a run of the pipeline on this host comes to go unseen. -/
def OutputsUnseen (view : View setting (Invokes setting.registry pipeline)) (host : Host) : Prop :=
  ∀ ran step rest operation ready,
    AboutToRun setting pipeline host ran step rest operation ready → operation.type = .output →
      Unseen view step operation ready

variable {host : Host}

/-- As far as the real run comes, the dry run comes too. -/
theorem Reaches.rehearsed (live : setting.dryRun = false)
    (alike : view.alike .empty host host) (unseen : OutputsUnseen view host)
    {sorted : List Step} (planned : plan setting.registry pipeline = .ok sorted)
    {ran rest : List Step} (split : sorted = ran ++ rest)
    (reached : Reaches setting (.initial host) ran real) :
    ∃ pairing dry, Reaches setting.rehearsal (.initial host) ran dry ∧
      Mirrors view pairing real dry := by
  -- On the steps that ran; that they are followed by `rest` ties each of them to the plan.
  induction reached generalizing rest with
  | start => exact ⟨.empty, _, .start, alike, .empty⟩
  | @next ran step operation before ready after reached starts succeeded ih =>
      rw [List.append_assoc, List.singleton_append] at split
      obtain ⟨pairing, dry, reached', mirrors⟩ := ih split
      obtain ⟨ready', starts', mirrorsReady⟩ := mirrors.starts starts
      have about : AboutToRun setting pipeline host ran step rest operation ready :=
        ⟨split ▸ planned, before, reached, starts⟩
      have listed : step ∈ pipeline.steps := about.taken.1.listed (by simp)
      obtain ⟨larger, after', succeeded', mirrorsAfter⟩ := runStep_rehearsal live listed
        mirrorsReady starts.found (unseen ran step rest operation ready about) succeeded
      exact ⟨larger, after', reached'.next starts' succeeded', mirrorsAfter⟩

theorem AboutToRun.rehearsed (live : setting.dryRun = false) (alike : view.alike .empty host host)
    (unseen : OutputsUnseen view host) {ran rest : List Step} {ready : State}
    (about : AboutToRun setting pipeline host ran step rest operation ready) :
    ∃ ready', AboutToRun setting.rehearsal pipeline host ran step rest operation ready' ∧
      List.Forall₂ (Reproduced setting.registry ready.host ready'.host) ready.results
        ready'.results := by
  obtain ⟨before, reached, starts⟩ := about.reached
  obtain ⟨pairing, before', reached', mirrors⟩ :=
    reached.rehearsed live alike unseen about.planned rfl
  obtain ⟨ready', starts', mirrorsReady⟩ := mirrors.starts starts
  exact ⟨ready', ⟨about.planned, before', reached', starts'⟩, mirrorsReady.reproduced⟩

theorem runPlan_rehearsed (live : setting.dryRun = false) (alike : view.alike .empty host host)
    (unseen : OutputsUnseen view host) {final : State}
    (succeeded : runPlan setting pipeline (.initial host) = (.ok (), final)) :
    ∃ final', runPlan setting.rehearsal pipeline (.initial host) = (.ok (), final') ∧
      List.Forall₂ (Reproduced setting.registry final.host final'.host) final.results
        final'.results := by
  cases planned : plan setting.registry pipeline with
  | error error =>
      simp only [runPlan, planned] at succeeded
      cases succeeded
  | ok sorted =>
      simp only [runPlan, planned] at succeeded
      have reached := runSteps_eq_ok_iff.mp succeeded
      obtain ⟨pairing, final', reached', mirrors⟩ :=
        reached.rehearsed live alike unseen planned (List.append_nil sorted).symm
      have planned' : plan setting.rehearsal.registry pipeline = .ok sorted := planned
      refine ⟨final', ?_, mirrors.reproduced⟩
      simp only [runPlan, planned']
      exact runSteps_eq_ok_iff.mpr reached'

end Rehearsal

/-- A dry run reproduces the real run if that succeeds. -/
theorem run_rehearsed {registry : Registry} {environment : Environment} {pipeline : Pipeline}
    {bindings : Variables} {host : Host}
    {view : View ⟨registry, environment, pipeline.mergedVariables bindings, false⟩
      (Invokes registry pipeline)}
    (alike : view.alike .empty host host) (unseen : OutputsUnseen view host)
    (success : (run registry environment pipeline bindings false host).1.success = true) :
    (run registry environment pipeline bindings true host).1.success = true ∧
      List.Forall₂ (Reproduced registry (run registry environment pipeline bindings false host).2
          (run registry environment pipeline bindings true host).2)
        (run registry environment pipeline bindings false host).1.results
        (run registry environment pipeline bindings true host).1.results := by
  have completed := errorText?_eq_none_iff.mp (Option.isNone_iff_eq_none.mp success)
  obtain ⟨final, rehearsed, reproduced⟩ :=
    runPlan_rehearsed rfl alike unseen (Prod.ext completed rfl)
  have reported : run registry environment pipeline bindings true host =
      (⟨pipeline.id, true, none, final.metrics, final.results,
        final.events ++ [.finished true none]⟩, final.host) := by
    simp only [Setting.rehearsal] at rehearsed
    simp only [run, rehearsed]
    rfl
  rw [reported]
  exact ⟨rfl, reproduced⟩

/-! ## Dry runs of built-in operations -/

theorem contents_eq_of_sameButFiles {left right : Host} (same : left.SameButFiles right) :
    left.contents = right.contents := by
  funext stream
  unfold Host.contents
  cases found : (left.streams[stream.index]?).join with
  | none => rw [← same.streams, found]; rfl
  | some cursor =>
      have there := List.mem_of_getElem? (Option.join_eq_some_iff.mp found)
      rw [← same.streams, found]
      simp only [Option.map_some, (same.loaded cursor there).supply_eq left.files right.files]

/-- Hosts that differ in their files look alike to operations that do not look at files. -/
def View.exceptFiles {setting : Setting} {covered : Step → Operation → Prop}
    (ignores : ∀ step operation, covered step operation → ∀ input,
      Activity.IgnoresFiles (operation.execute (setting.context step operation input))) :
    View setting covered :=
  .ofHosts Host.SameButFiles contents_eq_of_sameButFiles Host.SameButFiles.poll
    Host.SameButFiles.mergeGraphs
    (fun covered same input =>
      have agree := ignores _ _ covered input _ _ [] same
      ⟨agree.outcome, agree.hosts⟩)

theorem unseen_fileOutput {setting : Setting} {covered : Step → Operation → Prop}
    (ignores : ∀ step operation, covered step operation → ∀ input,
      Activity.IgnoresFiles (operation.execute (setting.context step operation input)))
    (step : Step) (ready : State) :
    Unseen (View.exceptFiles ignores) step FileOutput.operation ready := by
  obtain ⟨⟨files, changed⟩, handsOnNothing⟩ := FileOutput.execute_changesOnlyFiles
    (setting.context step FileOutput.operation (ready.begin step FileOutput.operation).1)
    ⟨(ready.begin step FileOutput.operation).2.host, []⟩
  refine ⟨handsOnNothing, ?_⟩
  rintro pairing other ⟨within, same⟩
  refine ⟨within, ?_⟩
  have changedHost : (execution setting step FileOutput.operation ready).2.host = _ := changed
  rw [changedHost]
  exact same.withFiles files

/-- The parameters of a step name no file. -/
def NamesNoFile (setting : Setting) (step : Step) (operation : Operation) : Prop :=
  ∀ name ∈ ["filePath", "shapesFile"],
    (OperationContext.ofParameters (setting.parameters step operation)).nonBlankText? name = none

instance (setting : Setting) (step : Step) (operation : Operation) :
    Decidable (NamesNoFile setting step operation) :=
  inferInstanceAs (Decidable (∀ name ∈ ["filePath", "shapesFile"],
    (OperationContext.ofParameters (setting.parameters step operation)).nonBlankText? name = none))

section Builtins

variable {config : Config} {environment : Environment} {pipeline : Pipeline}
  {merged bindings : Variables} {host : Host}

theorem ignoresFiles_of_builtin
    (noFiles : ∀ step operation, Invokes (.withBuiltins config) pipeline step operation →
      NamesNoFile ⟨.withBuiltins config, environment, merged, false⟩ step operation)
    (step : Step) (operation : Operation)
    (invoked : Invokes (.withBuiltins config) pipeline step operation) (input : Payload) :
    Activity.IgnoresFiles (operation.execute
      (Setting.context ⟨.withBuiltins config, environment, merged, false⟩ step operation
        input)) := by
  have noFile := noFiles step operation invoked
  obtain ⟨-, found, noOutput⟩ := invoked
  exact builtin_ignoresFiles (mem_builtins_of_get found) noOutput
    (noFile "filePath" (by simp)) (noFile "shapesFile" (by simp))

/-- The view of the built-in operations of a pipeline in which only the file output names a file. -/
def View.ofBuiltins
    (noFiles : ∀ step operation, Invokes (.withBuiltins config) pipeline step operation →
      NamesNoFile ⟨.withBuiltins config, environment, merged, false⟩ step operation) :
    View ⟨.withBuiltins config, environment, merged, false⟩
      (Invokes (.withBuiltins config) pipeline) :=
  .exceptFiles (ignoresFiles_of_builtin noFiles)

theorem outputsUnseen_of_builtins
    (noFiles : ∀ step operation, Invokes (.withBuiltins config) pipeline step operation →
      NamesNoFile ⟨.withBuiltins config, environment, merged, false⟩ step operation)
    (host : Host) : OutputsUnseen (View.ofBuiltins noFiles) host := by
  intro ran step rest operation ready about isOutput
  obtain ⟨before, -, starts⟩ := about.reached
  obtain rfl := eq_fileOutput_of_builtin (mem_builtins_of_get starts.found) isOutput
  exact unseen_fileOutput _ step ready

/-- A dry run of built-in operations, of which none but the file output names a file, reproduces the
real run. -/
theorem run_rehearsed_of_builtins
    (noFiles : ∀ step operation, Invokes (.withBuiltins config) pipeline step operation →
      NamesNoFile ⟨.withBuiltins config, environment, pipeline.mergedVariables bindings, false⟩
        step operation)
    (loaded : host.SameButFiles host)
    (success : (run (.withBuiltins config) environment pipeline bindings false host).1.success =
      true) :
    (run (.withBuiltins config) environment pipeline bindings true host).1.success = true ∧
      List.Forall₂ (Reproduced (.withBuiltins config)
          (run (.withBuiltins config) environment pipeline bindings false host).2
          (run (.withBuiltins config) environment pipeline bindings true host).2)
        (run (.withBuiltins config) environment pipeline bindings false host).1.results
        (run (.withBuiltins config) environment pipeline bindings true host).1.results := by
  have alike : (View.ofBuiltins noFiles).alike .empty host host :=
    ⟨Pairing.empty_within _, loaded⟩
  exact run_rehearsed alike (outputsUnseen_of_builtins noFiles host) success

end Builtins

/-- In a dry run no output operation has any effect, whatever it is, and the output steps that it
comes to have the results of steps that are left out. If the output steps of the real run hand
nothing on and go unseen by the operations of all other steps, the dry run comes to every step that
the real run comes to, with the same results before it, and it succeeds with the same results where
the real run succeeds. -/
theorem dryRun_rehearses (registry : Registry) (environment : Environment) (pipeline : Pipeline)
    (bindings : Variables) (host : Host) :
    let setting : Setting :=
      ⟨registry, environment, pipeline.mergedVariables bindings, false⟩
    let real := run registry environment pipeline bindings false host
    let dry := run registry environment pipeline bindings true host
    (∀ other, AgreeButOutputs registry other →
      run other environment pipeline bindings true host = dry) ∧
    (∀ step ∈ pipeline.steps, registry.isOutput step.operation = true →
      .started step.id step.displayName ∈ dry.1.events →
      ∃ result, dry.1.result? step.id = some result ∧ result.success = true ∧
        result.metadata = [("dryRun", .bool true), ("skipped", .bool true)] ∧
        result.output = .nothing) ∧
    ∀ view : View setting (Invokes registry pipeline), view.alike .empty host host →
      OutputsUnseen view host →
      (∀ ran step rest operation ready,
        AboutToRun setting pipeline host ran step rest operation ready →
        ∃ ready', AboutToRun setting.rehearsal pipeline host ran step rest operation ready' ∧
          List.Forall₂ (Reproduced registry ready.host ready'.host) ready.results
            ready'.results) ∧
      (real.1.success = true → dry.1.success = true ∧
        List.Forall₂ (Reproduced registry real.2 dry.2) real.1.results dry.1.results) := by
  intro setting real dry
  refine ⟨?_, ?_, ?_⟩
  · intro other agree
    exact run_congr rfl (@runPlan_rehearsal_of_agree setting other agree pipeline (.initial host))
  · intro step listed isOutput started
    obtain ⟨ran, step', rest, operation, ready, sameId, -, about⟩ := run_started_iff.mp started
    obtain ⟨taken, -⟩ := about.taken
    have listed' : step' ∈ pipeline.steps := taken.listed (by simp)
    obtain rfl : step' = step :=
      List.inj_on_of_nodup_map about.checked.distinct listed' listed sameId
    obtain ⟨before, -, starts⟩ := about.reached
    have left : setting.rehearsal.leavesOut operation = true :=
      leavesOut_rehearsal.mpr ((isOutput_of_found starts.found).mp isOutput)
    exact ⟨.leftOut step', about.result?_of_leavesOut left, rfl, rfl, rfl⟩
  · intro view alike unseen
    exact ⟨fun ran step rest operation ready about => about.rehearsed rfl alike unseen,
      run_rehearsed alike unseen⟩

/-! The names of a table become triples, which are written to a file and then checked. -/

def publishNames : Pipeline :=
  ⟨"publish", "Publish",
    [ (Step.of "read" "csv-source").withParameter "content" (.text "name\nAda\n"),
      ((Step.of "map" "rdf-mapping").withParameter "baseUri" (.text "urn:p:")).withParameter
        "propertyMappings" (.map [("name", .text "urn:q")]),
      (Step.of "write" "rdf-file-output").withParameter "filePath" (.text "names.nt"),
      (Step.of "check" "shacl-validation").withInputs ["map"] ], []⟩

theorem publishNames_namesNoFile (step : Step) (operation : Operation)
    (invoked : Invokes (.withBuiltins {}) publishNames step operation) :
    NamesNoFile ⟨.withBuiltins {}, fun _ => none, [], false⟩ step operation := by
  obtain ⟨listed, found, noOutput⟩ := invoked
  simp only [publishNames, List.mem_cons, List.not_mem_nil, or_false] at listed
  rcases listed with rfl | rfl | rfl | rfl
  · obtain rfl : Source.Csv.operation = operation := Except.ok.inj found
    decide +kernel
  · obtain rfl : Mapping.operation {} = operation := Except.ok.inj found
    decide +kernel
  · obtain rfl : FileOutput.operation = operation := Except.ok.inj found
    exact absurd rfl noOutput
  · obtain rfl : Shape.operation {} = operation := Except.ok.inj found
    decide +kernel

theorem dryRun_rehearses_publishNames :
    let host : Host := .initial Files.empty .never
    let real := run (.withBuiltins {}) (fun _ => none) publishNames [] false host
    let dry := run (.withBuiltins {}) (fun _ => none) publishNames [] true host
    real.1.success = true ∧ dry.1.success = true ∧
      List.Forall₂ (Reproduced (.withBuiltins {}) real.2 dry.2) real.1.results dry.1.results := by
  intro host real dry
  have success : real.1.success = true := by decide +kernel
  have loaded : host.SameButFiles host := ⟨rfl, rfl, rfl, rfl, fun _ none => by cases none⟩
  obtain ⟨-, -, rehearses⟩ :=
    dryRun_rehearses (.withBuiltins {}) (fun _ => none) publishNames [] host
  obtain ⟨-, reproduces⟩ := rehearses (.ofBuiltins publishNames_namesNoFile)
    ⟨Pairing.empty_within _, loaded⟩ (outputsUnseen_of_builtins publishNames_namesNoFile host)
  exact ⟨success, reproduces success⟩

end Pipeline

end RdfPipeline
