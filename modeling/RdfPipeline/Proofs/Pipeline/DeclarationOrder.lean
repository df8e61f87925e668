import RdfPipeline.Proofs.Pipeline.Accounts

/-!
# The order of declaration

In a fully wired pipeline all that a step receives comes over its connections. If its operation is a
function of what it receives, the step has the same account in every order in which its suppliers
come before it.
-/

set_option autoImplicit false

namespace RdfPipeline.Pipeline

variable {setting : Setting} {step : Step} {operation : Operation}

/-! ## Operations as functions -/

/-- The result of a step on a host with its input, and the host after it. -/
def Setting.outcome (setting : Setting) (step : Step) (operation : Operation) (host : Host)
    (input : Payload) : StepResult × Host :=
  if setting.leavesOut operation then (.leftOut step, host)
  else
    let execution := operation.execute (setting.context step operation input) ⟨host, []⟩
    (invocationResult step execution.1, execution.2.host)

/-- What becomes of a step that starts in a state. -/
def Setting.outcomeAt (setting : Setting) (step : Step) (operation : Operation) (state : State) :
    StepResult × Host :=
  setting.outcome step operation (state.begin step operation).2.host (state.begin step operation).1

theorem effect_of_outcomeAt (state : State) :
    Effect step state (setting.outcomeAt step operation state).1
      (setting.outcomeAt step operation state).2
      (runStep setting step operation state).1 (runStep setting step operation state).2 := by
  cases left : setting.leavesOut operation with
  | true =>
      simp only [Setting.outcomeAt, Setting.outcome, left, if_true]
      exact effect_of_leftOut left state
  | false =>
      simp only [Setting.outcomeAt, Setting.outcome, left, Bool.false_eq_true, if_false]
      exact effect_of_invoked left state

theorem effect_of_runStep_eq_ok {before after : State}
    (succeeded : runStep setting step operation before = (.ok (), after)) :
    Effect step before (setting.outcomeAt step operation before).1
      (setting.outcomeAt step operation before).2 (.ok ()) after := by
  have effect := @effect_of_outcomeAt setting step operation before
  rwa [succeeded] at effect

theorem outcome_step (host : Host) (input : Payload) :
    (setting.outcome step operation host input).1.step = step.id := by
  unfold Setting.outcome
  split
  · rfl
  · exact invocationResult_step step _

/-- The operation of a step, unless the run leaves the step out. -/
structure Invoked (setting : Setting) (steps : List Step) (step : Step) (operation : Operation) :
    Prop where
  listed : step ∈ steps
  found : setting.registry.get step.operation = .ok operation
  invoked : setting.leavesOut operation = false

/-- On steady hosts, on which nobody requests to cancel, the operations of steps are functions of
what they receive: whatever the names of their input and whatever else there is, inputs with the
same contents have the same account. An invocation uses no stream but the one that it receives, and
hands on that one or a new one. -/
structure Functional (setting : Setting) (steps : List Step) (steady : Host → Prop) : Prop where
  poll : ∀ {host}, steady host → host.poll.1 = false ∧ steady host.poll.2
  merge : ∀ {host} parts, steady host → steady (host.mergeGraphs parts).2
  confined : ∀ {step operation}, Invoked setting steps step operation → ∀ {host} {input : Payload},
    steady host → host.Holds input.stream →
    let outcome := setting.outcome step operation host input
    steady outcome.2 ∧ Confined input.stream host outcome.1.outputStream outcome.2
  determined : ∀ {step operation}, Invoked setting steps step operation →
    ∀ {host host'} {input input' : Payload}, steady host → steady host' →
    host.Holds input.stream → host'.Holds input'.stream →
    host.contentsOf input = host'.contentsOf input' →
    let outcome := setting.outcome step operation host input
    let outcome' := setting.outcome step operation host' input'
    outcome.1.account outcome.2 = outcome'.1.account outcome'.2

namespace Functional

variable {steps : List Step} {steady : Host → Prop} (functional : Functional setting steps steady)
  {host host' : Host} {input input' : Payload}

theorem outcome_of_leavesOut (left : setting.leavesOut operation = true) :
    setting.outcome step operation host input = (.leftOut step, host) :=
  if_pos left

include functional in
theorem outcome_confined (listed : step ∈ steps)
    (found : setting.registry.get step.operation = .ok operation) (undisturbed : steady host)
    (holds : host.Holds input.stream) :
    let outcome := setting.outcome step operation host input
    steady outcome.2 ∧ Confined input.stream host outcome.1.outputStream outcome.2 := by
  cases left : setting.leavesOut operation with
  | true =>
      rw [outcome_of_leavesOut left]
      exact ⟨undisturbed, .of_same rfl rfl⟩
  | false => exact functional.confined ⟨listed, found, left⟩ undisturbed holds

include functional in
theorem outcome_determined (listed : step ∈ steps)
    (found : setting.registry.get step.operation = .ok operation) (undisturbed : steady host)
    (undisturbed' : steady host') (holds : host.Holds input.stream)
    (holds' : host'.Holds input'.stream)
    (same : host.contentsOf input = host'.contentsOf input') :
    let outcome := setting.outcome step operation host input
    let outcome' := setting.outcome step operation host' input'
    outcome.1.account outcome.2 = outcome'.1.account outcome'.2 := by
  cases left : setting.leavesOut operation with
  | true =>
      rw [outcome_of_leavesOut left, outcome_of_leavesOut left]
      rfl
  | false =>
      exact functional.determined ⟨listed, found, left⟩ undisturbed undisturbed' holds holds' same

include functional in
theorem begin_steady {state : State} (undisturbed : steady state.host) :
    steady (state.begin step operation).2.host := by
  by_cases unconnected : step.inputs = []
  · rw [begin_of_unconnected unconnected]
    exact undisturbed
  · rw [begin_of_connected unconnected]
    exact functional.merge _ undisturbed

end Functional

/-! ## One step -/

/-- The order of a plan, as far as it matters to what steps receive. -/
structure Planned (setting : Setting) (accounts : String → Option Account) (sorted : List Step) :
    Prop where
  distinct : (sorted.map (·.id)).Nodup
  inputsFirst : InputsFirst sorted
  fullyWired : ∀ step ∈ sorted, ∀ operation, setting.registry.get step.operation = .ok operation →
    step.inputs = [] → operation.type = .source
  once : ReceivedOnce accounts sorted

theorem Planned.unreceived {accounts : String → Option Account} {ran rest : List Step}
    (planned : Planned setting accounts (ran ++ step :: rest)) {id : String}
    (source : streamSource accounts step = some id) : Unreceived accounts ran id := by
  intro receiver member receives
  have same : receiver = step :=
    planned.once receiver (List.mem_append_left _ member) step (by simp) id receives source
  subst same
  exact id_not_mem_of_nodup planned.distinct (List.mem_map_of_mem member)

section Step

variable {steps ran rest : List Step} {steady : Host → Prop} {accounts : String → Option Account}
  {before ready : State}

/-- A step is about to run on a steady host in a run that follows the accounts. -/
structure Due (setting : Setting) (steps : List Step) (steady : Host → Prop)
    (accounts : String → Option Account) (ran : List Step) (step : Step) (rest : List Step)
    (operation : Operation) (ready : State) : Prop where
  functional : Functional setting steps steady
  listed : step ∈ steps
  planned : Planned setting accounts (ran ++ step :: rest)
  found : setting.registry.get step.operation = .ok operation
  follows : Follows accounts ran ready
  undisturbed : steady ready.host

/-- The account of a step on some host on which it receives what its suppliers handed on. -/
structure Explains (setting : Setting) (steady : Host → Prop)
    (accounts : String → Option Account) (step : Step) (operation : Operation) (host : Host)
    (input : Payload) : Prop where
  found : setting.registry.get step.operation = .ok operation
  undisturbed : steady host
  holds : host.Holds input.stream
  receives : host.contentsOf input = received accounts step
  success : (setting.outcome step operation host input).1.success = true
  account : accounts step.id = some ((setting.outcome step operation host input).1.account
    (setting.outcome step operation host input).2)

namespace Due

variable (due : Due setting steps steady accounts ran step rest operation ready)

include due

theorem receives :
    (ready.begin step operation).2.host.contentsOf (ready.begin step operation).1 =
        received accounts step ∧
      Supplied accounts ran ready step (ready.begin step operation).1.stream := by
  rw [Follows.begin_contentsOf]
  exact due.follows.begin (due.planned.inputsFirst ran step rest rfl)
    (due.planned.fullyWired step (by simp) operation due.found) fun _ => due.planned.unreceived

theorem holds : (ready.begin step operation).2.host.Holds (ready.begin step operation).1.stream := by
  intro stream there
  obtain ⟨supplier, member, supplies, -⟩ := due.receives.2 stream there
  rw [(Follows.begin_host ready).1]
  exact due.follows.held supplier member stream supplies

theorem outcomeAt_confined :
    steady (setting.outcomeAt step operation ready).2 ∧
      Confined (ready.begin step operation).1.stream ready.host
        (setting.outcomeAt step operation ready).1.outputStream
        (setting.outcomeAt step operation ready).2 := by
  obtain ⟨still, confined⟩ := due.functional.outcome_confined due.listed due.found
    (due.functional.begin_steady due.undisturbed) due.holds
  exact ⟨still, confined.of_before (Follows.begin_host ready).1 (Follows.begin_host ready).2⟩

theorem account_eq {operation' : Operation} {host : Host} {input : Payload}
    (explains : Explains setting steady accounts step operation' host input) :
    accounts step.id = some ((setting.outcomeAt step operation ready).1.account
        (setting.outcomeAt step operation ready).2) ∧
      (setting.outcomeAt step operation ready).1.success = true := by
  obtain rfl : operation = operation' := Except.ok.inj (due.found.symm.trans explains.found)
  have same := due.functional.outcome_determined due.listed due.found explains.undisturbed
    (due.functional.begin_steady due.undisturbed) explains.holds due.holds
    (explains.receives.trans due.receives.1.symm)
  refine ⟨explains.account.trans (congrArg some same), ?_⟩
  exact (congrArg Account.success same).symm.trans explains.success

theorem next {after : State} (succeeded : runStep setting step operation ready = (.ok (), after))
    (recorded : Recorded (ran ++ [step]) after.ledger)
    (account : accounts step.id = some ((setting.outcomeAt step operation ready).1.account
      (setting.outcomeAt step operation ready).2)) :
    Follows accounts (ran ++ [step]) after ∧ steady after.host := by
  have effect := effect_of_runStep_eq_ok succeeded
  obtain ⟨still, confined⟩ := due.outcomeAt_confined
  refine ⟨due.follows.next effect recorded (outcome_step _ _) account due.receives.2 confined, ?_⟩
  rw [effect.host]
  exact still

end Due

theorem Due.of_starts (functional : Functional setting steps steady) (listed : step ∈ steps)
    (planned : Planned setting accounts (ran ++ step :: rest))
    (follows : Follows accounts ran before) (undisturbed : steady before.host)
    (starts : Starts setting before step operation ready) :
    Due setting steps steady accounts ran step rest operation ready := by
  refine ⟨functional, listed, planned, starts.found, follows.starts starts, ?_⟩
  rw [starts.host_eq]
  exact (functional.poll undisturbed).2

end Step

/-! ## Accounts of a run -/

/-- The steps of a plan up to the one of an id. -/
def upTo (sorted : List Step) (id : String) : List Step :=
  sorted.take (sorted.findIdx (·.id == id) + 1)

/-- What a run of a plan records of a step, with the contents of its stream right after it. -/
def Setting.accounts (setting : Setting) (sorted : List Step) (start : State) (id : String) :
    Option Account :=
  let state := (runSteps setting (upTo sorted id) start).2
  (state.ledger.result? id).map (·.account state.host)

theorem upTo_eq {ran rest : List Step} (distinct : ((ran ++ step :: rest).map (·.id)).Nodup) :
    upTo (ran ++ step :: rest) step.id = ran ++ [step] := by
  have others : ran.findIdx (·.id == step.id) = ran.length := by
    rw [List.findIdx_eq_length]
    intro other member
    have new := id_not_mem_of_nodup distinct
    simpa using fun same => new (List.mem_map.mpr ⟨other, member, same⟩)
  rw [upTo, List.findIdx_append, others, if_neg (Nat.lt_irrefl _), List.findIdx_cons]
  simp [List.take_append]

theorem accounts_of_reaches {start after : State} {ran rest : List Step}
    (distinct : ((ran ++ step :: rest).map (·.id)).Nodup)
    (reached : Reaches setting start (ran ++ [step]) after) :
    setting.accounts (ran ++ step :: rest) start step.id =
      (after.ledger.result? step.id).map (·.account after.host) := by
  rw [Setting.accounts, upTo_eq distinct, runSteps_eq_ok_iff.mpr reached]

theorem Effect.result? {before after : State} {result : StepResult} {host : Host}
    {verdict : Except EngineError Unit} (effect : Effect step before result host verdict after)
    (indexed : before.ledger.Indexed) : after.ledger.result? result.step = some result := by
  rw [effect.ledger, Ledger.result?_record indexed, if_pos rfl]

theorem Due.accounts_eq {steps ran rest : List Step} {steady : Host → Prop}
    {accounts : String → Option Account} {start ready after : State}
    (due : Due setting steps steady accounts ran step rest operation ready)
    (succeeded : runStep setting step operation ready = (.ok (), after))
    (reached : Reaches setting start (ran ++ [step]) after) :
    setting.accounts (ran ++ step :: rest) start step.id =
      some ((setting.outcomeAt step operation ready).1.account
        (setting.outcomeAt step operation ready).2) := by
  have effect := effect_of_runStep_eq_ok succeeded
  have found := effect.result? due.follows.recorded.indexed
  rw [Setting.outcomeAt, outcome_step] at found
  rw [accounts_of_reaches due.planned.distinct reached, found, effect.host]
  rfl

section Runs

variable {steps ran rest sorted : List Step} {steady : Host → Prop} {host : Host} {state : State}

/-- A run follows its own accounts, and these are the accounts of steps that receive what the
accounts of their suppliers say. -/
theorem Reaches.explained (functional : Functional setting steps steady) (undisturbed : steady host)
    (planned : Planned setting (setting.accounts sorted (.initial host)) sorted)
    (listed : sorted ⊆ steps) (split : sorted = ran ++ rest)
    (reached : Reaches setting (.initial host) ran state) :
    (Follows (setting.accounts sorted (.initial host)) ran state ∧ steady state.host) ∧
      ∀ step ∈ ran, ∃ operation host' input, Explains setting steady
        (setting.accounts sorted (.initial host)) step operation host' input := by
  induction reached generalizing rest with
  | start => exact ⟨⟨follows_initial _ host, undisturbed⟩, by simp⟩
  | @next ran step operation before ready after reached starts succeeded ih =>
      rw [List.append_assoc, List.singleton_append] at split
      obtain ⟨⟨follows, steadyBefore⟩, explained⟩ := ih split
      have member : step ∈ steps := listed (by simp [split])
      have plannedHere : Planned setting (setting.accounts sorted (.initial host))
          (ran ++ step :: rest) := by
        rwa [← split]
      have due := Due.of_starts functional member plannedHere follows steadyBefore starts
      have further := reached.next starts succeeded
      have account := due.accounts_eq succeeded further
      rw [← split] at account
      refine ⟨due.next succeeded further.recorded account, ?_⟩
      refine List.forall_mem_append.mpr ⟨explained, List.forall_mem_singleton.mpr ?_⟩
      have effect := effect_of_runStep_eq_ok succeeded
      exact ⟨operation, _, _, due.found, functional.begin_steady due.undisturbed, due.holds,
        due.receives.1, effect.ok_iff.mp rfl, account⟩

/-- Steps with explained accounts succeed with these in every order in which each comes after its
suppliers. -/
theorem exists_reaches_of_explained {accounts : String → Option Account}
    (functional : Functional setting steps steady) (undisturbed : steady host)
    (planned : Planned setting accounts sorted) (listed : sorted ⊆ steps)
    (explained : ∀ step ∈ sorted, ∃ operation host' input,
      Explains setting steady accounts step operation host' input)
    (split : sorted = ran ++ rest) :
    ∃ state, Reaches setting (.initial host) ran state ∧ Follows accounts ran state ∧
      steady state.host ∧
      ∀ step ∈ ran, setting.accounts sorted (.initial host) step.id = accounts step.id := by
  -- On the steps that ran. The account of the next one is explained by another run, in which it was
  -- about to run on some other host and received the same.
  induction ran using List.reverseRecOn generalizing rest with
  | nil => exact ⟨_, .start, follows_initial accounts host, undisturbed, by simp⟩
  | append_singleton ran step ih =>
      rw [List.append_assoc, List.singleton_append] at split
      obtain ⟨before, reached, follows, steadyBefore, same⟩ := ih split
      have member : step ∈ sorted := by simp [split]
      obtain ⟨operation, host', input, explains⟩ := explained step member
      have starts : Starts setting before step operation before.poll.2 :=
        ⟨Prod.ext (functional.poll steadyBefore).1 rfl, explains.found⟩
      have due := Due.of_starts functional (listed member) (split ▸ planned) follows steadyBefore
        starts
      obtain ⟨account, success⟩ := due.account_eq explains
      have effect := @effect_of_outcomeAt setting step operation before.poll.2
      have succeeded : runStep setting step operation before.poll.2 =
          (.ok (), (runStep setting step operation before.poll.2).2) :=
        Prod.ext (effect.ok_iff.mpr success) rfl
      have further := reached.next starts succeeded
      obtain ⟨followsAfter, steadyAfter⟩ := due.next succeeded further.recorded account
      refine ⟨_, further, followsAfter, steadyAfter, ?_⟩
      refine List.forall_mem_append.mpr ⟨same, List.forall_mem_singleton.mpr ?_⟩
      rw [account, split]
      exact due.accounts_eq succeeded further

theorem Reaches.exists_earlier {start final : State} (reached : Reaches setting start sorted final)
    (split : sorted = ran ++ rest) :
    ∃ state, Reaches setting start ran state ∧ state.results <+: final.results := by
  induction reached generalizing rest with
  | start =>
      obtain ⟨rfl, -⟩ := List.append_eq_nil_iff.mp split.symm
      exact ⟨_, .start, List.prefix_refl _⟩
  | @next before step operation state ready after reached starts succeeded ih =>
      rcases List.eq_nil_or_concat rest with rfl | ⟨front, last, rfl⟩
      · rw [List.append_nil] at split
        subst split
        exact ⟨_, reached.next starts succeeded, List.prefix_refl _⟩
      · rw [List.concat_eq_append, ← List.append_assoc] at split
        obtain ⟨earlier, reachedEarlier, kept⟩ := ih (List.append_inj' split rfl).1
        have effect := effect_of_runStep_eq_ok succeeded
        refine ⟨earlier, reachedEarlier, kept.trans ?_⟩
        rw [State.results, State.results, effect.ledger, starts.extends.ledger]
        exact List.prefix_append _ _

/-- The run of a plan from a host has just recorded the result of the step. -/
structure JustRecorded (setting : Setting) (sorted : List Step) (host : Host) (step : Step)
    (result : StepResult) (state : State) : Prop where
  reached : ∃ ran rest, sorted = ran ++ step :: rest ∧
    Reaches setting (.initial host) (ran ++ [step]) state
  last : state.results.getLast? = some result

/-- The result that a run reports of a step is the one that it has recorded after it. -/
theorem Reaches.exists_justRecorded {final : State} (distinct : (sorted.map (·.id)).Nodup)
    (reached : Reaches setting (.initial host) sorted final) (listed : step ∈ sorted) :
    ∃ result state, JustRecorded setting sorted host step result state ∧
      final.results.find? (·.step == step.id) = some result ∧
      setting.accounts sorted (.initial host) step.id = some (result.account state.host) := by
  obtain ⟨ran, rest, rfl⟩ := List.append_of_mem listed
  obtain ⟨state, reachedHere, kept⟩ :=
    reached.exists_earlier (List.append_cons ran step rest)
  obtain ⟨result, last, ofStep, found⟩ := reachedHere.recorded.last List.getLast?_concat
  have member : result ∈ final.results := kept.subset (List.mem_of_getLast? last)
  refine ⟨result, state, ⟨⟨ran, rest, rfl, reachedHere⟩, last⟩, ?_, ?_⟩
  · have distinctResults : (final.results.map (·.step)).Nodup := by
      rwa [State.results, reached.recorded.steps]
    cases search : final.results.find? (·.step == step.id) with
    | none =>
        have excluded := List.find?_eq_none.mp search result member
        simp [ofStep] at excluded
    | some other =>
        have sameStep : other.step = result.step := by
          rw [ofStep]
          simpa using List.find?_some search
        rw [List.inj_on_of_nodup_map distinctResults (List.mem_of_find?_eq_some search) member
          sameStep]
  · rw [accounts_of_reaches distinct reachedHere, found]
    rfl

end Runs

/-! ## Two runs -/

theorem Checked.of_perm {registry : Registry} {steps steps' : List Step}
    (checked : Checked registry steps) (permuted : steps.Perm steps') : Checked registry steps' where
  distinct := (permuted.map _).nodup_iff.mp checked.distinct
  known := fun step listed input connected =>
    (permuted.map _).mem_iff.mp (checked.known step (permuted.mem_iff.mpr listed) input connected)
  named := fun step listed => checked.named step (permuted.mem_iff.mpr listed)
  registered := fun step listed => checked.registered step (permuted.mem_iff.mpr listed)

theorem dependsOn_of_perm {steps steps' : List Step} (permuted : steps.Perm steps') :
    DependsOn steps = DependsOn steps' := by
  funext step input
  exact propext (and_congr_left fun _ => permuted.mem_iff)

theorem exists_plan_of_perm {registry : Registry} {pipeline pipeline' : Pipeline}
    {sorted : List Step} (planned : plan registry pipeline = .ok sorted)
    (permuted : pipeline.steps.Perm pipeline'.steps) :
    ∃ sorted', plan registry pipeline' = .ok sorted' := by
  obtain ⟨checked, ordered⟩ := plan_eq_ok_iff.mp planned
  have checked' := checked.of_perm permuted
  have acyclic := (exists_order_iff checked.toWired).mp ⟨sorted, ordered⟩
  obtain ⟨sorted', ordered'⟩ := (exists_order_iff checked'.toWired).mpr (by
    rintro ⟨step, listed, loop⟩
    rw [← dependsOn_of_perm permuted] at loop
    exact acyclic ⟨step, permuted.mem_iff.mpr listed, loop⟩)
  exact ⟨sorted', plan_eq_ok_iff.mpr ⟨checked', ordered'⟩⟩

section Reports

variable {registry : Registry} {environment : Environment} {pipeline : Pipeline}
  {bindings : Variables} {dryRun : Bool} {host : Host} {sorted : List Step} {final : State}

theorem exists_reaches_of_success
    (success : (run registry environment pipeline bindings dryRun host).1.success = true) :
    ∃ sorted final, plan registry pipeline = .ok sorted ∧
      Reaches ⟨registry, environment, pipeline.mergedVariables bindings, dryRun⟩ (.initial host)
        sorted final := by
  have completed := errorText?_eq_none_iff.mp (Option.isNone_iff_eq_none.mp success)
  cases planned : plan registry pipeline with
  | error error =>
      simp only [planned] at completed
      cases completed
  | ok sorted =>
      simp only [planned] at completed
      exact ⟨sorted, _, rfl, runSteps_eq_ok_iff.mp (Prod.ext completed rfl)⟩

theorem run_of_reaches (planned : plan registry pipeline = .ok sorted)
    (reached : Reaches ⟨registry, environment, pipeline.mergedVariables bindings, dryRun⟩
      (.initial host) sorted final) :
    run registry environment pipeline bindings dryRun host =
      (⟨pipeline.id, true, none, final.metrics, final.results,
        final.events ++ [.finished true none]⟩, final.host) := by
  simp only [run, runPlan, planned, runSteps_eq_ok_iff.mpr reached]
  rfl

end Reports

/-- The last of the connections of a step to a step that has handed on a stream. -/
def Run.streamSource? (report : Run) (step : Step) : Option String :=
  (step.inputs.filter fun id => ((report.result? id).bind (·.outputStream)).isSome).getLast?

section Sources

variable {steps sorted : List Step} {host : Host} {final : State}

theorem streamSource?_eq (distinct : (sorted.map (·.id)).Nodup)
    (reached : Reaches setting (.initial host) sorted final) {report : Run}
    (results : report.results = final.results) {receiver : Step}
    (known : ∀ input ∈ receiver.inputs, input ∈ sorted.map (·.id)) :
    report.streamSource? receiver =
      streamSource (setting.accounts sorted (.initial host)) receiver := by
  refine congrArg List.getLast? (List.filter_congr fun input connected => ?_)
  obtain ⟨supplier, listed, rfl⟩ := List.mem_map.mp (known input connected)
  obtain ⟨result, state, -, found, account⟩ := reached.exists_justRecorded distinct listed
  rw [Run.result?, results, found, streamOf, account]
  exact (result.fits_account state.host).stream

theorem Planned.of_perm {accounts : String → Option Account} {sorted' : List Step}
    (planned : Planned setting accounts sorted) (permuted : sorted.Perm sorted')
    (inputsFirst : InputsFirst sorted') : Planned setting accounts sorted' where
  distinct := (permuted.map _).nodup_iff.mp planned.distinct
  inputsFirst := inputsFirst
  fullyWired := fun step listed => planned.fullyWired step (permuted.mem_iff.mpr listed)
  once := fun first firstListed second secondListed =>
    planned.once first (permuted.mem_iff.mpr firstListed) second (permuted.mem_iff.mpr secondListed)

/-- Of a step two runs have recorded the same right after it, with the contents of streams and graphs
as they were then. -/
def SameAccount (setting : Setting) (sorted sorted' : List Step) (host host' : Host) (step : Step)
    (result result' : StepResult) : Prop :=
  ∃ state state', JustRecorded setting sorted host step result state ∧
    JustRecorded setting sorted' host' step result' state' ∧
    result.account state.host = result'.account state'.host

/-- A run that has succeeded succeeds in every other order in which steps come after their inputs,
with the same accounts. -/
theorem Reaches.permuted {steady : Host → Prop} (functional : Functional setting steps steady)
    (undisturbed : steady host) {host' : Host} (undisturbed' : steady host')
    (planned : Planned setting (setting.accounts sorted (.initial host)) sorted)
    (listed : sorted ⊆ steps) (reached : Reaches setting (.initial host) sorted final)
    {sorted' : List Step} (permuted : sorted.Perm sorted') (inputsFirst : InputsFirst sorted') :
    ∃ final', Reaches setting (.initial host') sorted' final' ∧ ∀ step ∈ sorted,
      ∃ result result', final.results.find? (·.step == step.id) = some result ∧
        final'.results.find? (·.step == step.id) = some result' ∧
        SameAccount setting sorted sorted' host host' step result result' ∧
        (Unreceived (setting.accounts sorted (.initial host)) sorted step.id →
          result.account final.host = result'.account final'.host) := by
  have planned' := planned.of_perm permuted inputsFirst
  obtain ⟨⟨follows, -⟩, explained⟩ :=
    reached.explained functional undisturbed planned listed (List.append_nil sorted).symm
  obtain ⟨final', reached', follows', -, sameAccounts⟩ :=
    exists_reaches_of_explained functional undisturbed' planned'
      (fun step member => listed (permuted.mem_iff.mpr member))
      (fun step member => explained step (permuted.mem_iff.mpr member))
      (List.append_nil sorted').symm
  refine ⟨final', reached', fun step member => ?_⟩
  have member' := permuted.mem_iff.mp member
  obtain ⟨result, state, recorded, found, account⟩ :=
    reached.exists_justRecorded planned.distinct member
  obtain ⟨result', state', recorded', found', account'⟩ :=
    reached'.exists_justRecorded planned'.distinct member'
  rw [sameAccounts step member', account] at account'
  refine ⟨result, result', found, found', ⟨state, state', recorded, recorded',
    Option.some.inj account'⟩, fun unreceived => ?_⟩
  have unreceived' : Unreceived (setting.accounts sorted (.initial host)) sorted' step.id :=
    fun receiver receiverMember => unreceived receiver (permuted.mem_iff.mpr receiverMember)
  have ofStep : result.step = step.id := by simpa using List.find?_some found
  have ofStep' : result'.step = step.id := by simpa using List.find?_some found'
  have last := follows.account_eq (List.mem_of_find?_eq_some found) (ofStep ▸ unreceived)
  have last' := follows'.account_eq (List.mem_of_find?_eq_some found') (ofStep' ▸ unreceived')
  rw [ofStep] at last
  rw [ofStep'] at last'
  exact Option.some.inj (last.symm.trans last')

end Sources

/-- Let every step but the sources have connections, let the operations be functions of what they
receive, and let no stream be received by two steps. If the steps of a pipeline are declared in
another order, its run succeeds as before, and right after each step it has recorded the same of it,
the contents of streams and graphs included. Streams that nobody receives still have the same
contents in the end. -/
theorem run_of_permuted_steps {registry : Registry} {environment : Environment}
    {pipeline pipeline' : Pipeline} {bindings bindings' : Variables} {dryRun : Bool}
    {host host' : Host} {steady : Host → Prop}
    (permuted : pipeline.steps.Perm pipeline'.steps)
    (sameVariables : pipeline'.mergedVariables bindings' = pipeline.mergedVariables bindings)
    (fullyWired : ∀ step ∈ pipeline.steps, ∀ operation,
      registry.get step.operation = .ok operation → step.inputs = [] → operation.type = .source)
    (functional : Functional ⟨registry, environment, pipeline.mergedVariables bindings, dryRun⟩
      pipeline.steps steady)
    (undisturbed : steady host) (undisturbed' : steady host')
    (success : (run registry environment pipeline bindings dryRun host).1.success = true)
    (once : ∀ first ∈ pipeline.steps, ∀ second ∈ pipeline.steps, ∀ id,
      (run registry environment pipeline bindings dryRun host).1.streamSource? first = some id →
      (run registry environment pipeline bindings dryRun host).1.streamSource? second = some id →
      first = second) :
    let setting : Setting := ⟨registry, environment, pipeline.mergedVariables bindings, dryRun⟩
    let report := run registry environment pipeline bindings dryRun host
    let report' := run registry environment pipeline' bindings' dryRun host'
    report'.1.success = true ∧ ∃ sorted sorted', plan registry pipeline = .ok sorted ∧
      plan registry pipeline' = .ok sorted' ∧ ∀ step ∈ pipeline.steps, ∃ result result',
        report.1.result? step.id = some result ∧ report'.1.result? step.id = some result' ∧
        SameAccount setting sorted sorted' host host' step result result' ∧
        ((∀ receiver ∈ pipeline.steps, report.1.streamSource? receiver ≠ some step.id) →
          result.account report.2 = result'.account report'.2) := by
  intro setting report report'
  obtain ⟨sorted, final, planned, reached⟩ := exists_reaches_of_success success
  obtain ⟨sorted', planned'⟩ := exists_plan_of_perm planned permuted
  obtain ⟨checked, ordered⟩ := plan_eq_ok_iff.mp planned
  obtain ⟨taken, sortedPerm⟩ := taken_of_order_eq_ok checked.toWired ordered
  obtain ⟨checked', ordered'⟩ := plan_eq_ok_iff.mp planned'
  obtain ⟨taken', sortedPerm'⟩ := taken_of_order_eq_ok checked'.toWired ordered'
  have reported : report = _ := run_of_reaches planned reached
  have sources : ∀ receiver ∈ pipeline.steps, report.1.streamSource? receiver =
      streamSource (setting.accounts sorted (.initial host)) receiver := by
    intro receiver listed
    refine streamSource?_eq taken.distinct reached (congrArg (·.1.results) reported)
      fun input connected => ?_
    exact (sortedPerm.map _).mem_iff.mpr (checked.known receiver listed input connected)
  have plannedHere : Planned setting (setting.accounts sorted (.initial host)) sorted := by
    refine ⟨taken.distinct, taken.inputsFirst,
      fun step member => fullyWired step (taken.listed member), ?_⟩
    intro first firstMember second secondMember id firstSource secondSource
    rw [← sources first (taken.listed firstMember)] at firstSource
    rw [← sources second (taken.listed secondMember)] at secondSource
    exact once first (taken.listed firstMember) second (taken.listed secondMember) id firstSource
      secondSource
  obtain ⟨final', reached', alike⟩ := reached.permuted functional undisturbed undisturbed' plannedHere
    taken.listed (sortedPerm.trans (permuted.trans sortedPerm'.symm)) taken'.inputsFirst
  have reported' : report' = _ := run_of_reaches planned' (sameVariables ▸ reached')
  refine ⟨congrArg (·.1.success) reported', sorted, sorted', planned, planned', fun step listed => ?_⟩
  obtain ⟨result, result', found, found', same, last⟩ := alike step (sortedPerm.mem_iff.mpr listed)
  refine ⟨result, result', ?_, ?_, same, fun unreceived => ?_⟩
  · rw [Run.result?, reported]
    exact found
  · rw [Run.result?, reported']
    exact found'
  · rw [reported, reported']
    refine last fun receiver member => ?_
    rw [← sources receiver (taken.listed member)]
    exact unreceived receiver (taken.listed member)

/-! Two names become streams, then graphs, and then one graph. -/

/-- A stream of one record, the parameters. -/
def parametersSource : Operation where
  id := "parameters"
  name := "Parameters"
  description := "A stream of one record, the parameters"
  type := .source
  parameters := []
  execute context := do
    let stream ← Activity.openStream (.plain (.ready (.ofOutcomes [.ok context.parameters])))
    return .ofStream stream

/-- A triple for each text in the records of a stream. -/
def mentions (contents : Option Stream.Cursor) : List Rdf.Triple :=
  ((contents.map fun cursor => (cursor.feed.supply Files.empty).ahead).getD []).flatMap fun item =>
    match item.outcome with
    | .ok record => record.filterMap fun (key, value) =>
        value.asText?.map fun text =>
          ⟨.iri ⟨"urn:record"⟩, ⟨"urn:" ++ key⟩, .literal (.plain text)⟩
    | .error _ => []

def mentionTexts : Operation where
  id := "mention"
  name := "Mention"
  description := "A triple for each text in the records of the stream"
  type := .transform
  parameters := []
  execute context :=
    match context.inputStream with
    | none => return .failed "no stream"
    | some stream => do
        let contents ← Activity.withHost fun host =>
          (host.contents stream, (host.takeStream stream).2)
        let graph ← Activity.shareGraph (Rdf.Graph.ofList (mentions contents))
        return .ofGraph graph

def countTriples : Operation where
  id := "count"
  name := "Count"
  description := "The graph, with the number of its triples"
  type := .transform
  parameters := []
  execute context :=
    match context.inputGraph with
    | none => return .failed "no graph"
    | some shared =>
        return (OperationResult.ofGraph shared).withMetadata "triples" (.ofCount shared.graph.size)

def recordOperations : Registry :=
  Registry.empty.registerAll [parametersSource, mentionTexts, countTriples]

def namesSteps : List Step :=
  [ (Step.of "left" "parameters").withParameter "name" (.text "Ada"),
    (Step.of "right" "parameters").withParameter "name" (.text "Bob"),
    (Step.of "mentionLeft" "mention").withInputs ["left"],
    (Step.of "mentionRight" "mention").withInputs ["right"],
    (Step.of "both" "count").withInputs ["mentionLeft", "mentionRight"] ]

def namesSetting : Setting :=
  ⟨recordOperations, fun _ => none, [], false⟩

/-- Nobody has requested to cancel, and nobody is going to. -/
def Calm (host : Host) : Prop :=
  host.cancellation.requested = false ∧ host.cancellation.due = none

theorem operation_of_namesSteps (listed : step ∈ namesSteps)
    (found : recordOperations.get step.operation = .ok operation) :
    operation = parametersSource ∨ operation = mentionTexts ∨ operation = countTriples := by
  simp only [namesSteps, List.mem_cons, List.not_mem_nil, or_false] at listed
  rcases listed with rfl | rfl | rfl | rfl | rfl
  · exact .inl (Except.ok.inj found).symm
  · exact .inl (Except.ok.inj found).symm
  · exact .inr (.inl (Except.ok.inj found).symm)
  · exact .inr (.inl (Except.ok.inj found).symm)
  · exact .inr (.inr (Except.ok.inj found).symm)

theorem functional_names : Functional namesSetting namesSteps Calm where
  poll := by
    rintro host ⟨unrequested, undue⟩
    simp [Host.poll, Cancellation.poll, Calm, unrequested, undue]
  merge := by
    rintro host parts calm
    unfold Host.mergeGraphs
    split <;> exact calm
  confined := by
    intro step operation invoked host input calm holds
    rcases operation_of_namesSteps invoked.listed invoked.found with rfl | rfl | rfl
    · exact ⟨calm, .openStream _ _ _⟩
    · obtain ⟨stream, graph⟩ := input
      cases stream with
      | none => exact ⟨calm, .of_same rfl rfl⟩
      | some stream =>
          have taken := Confined.takeStream host stream
          exact ⟨calm, taken.grows, taken.keeps, taken.handsOn⟩
    · obtain ⟨stream, graph⟩ := input
      cases graph with
      | none => exact ⟨calm, .of_same rfl rfl⟩
      | some shared => exact ⟨calm, .of_same rfl rfl⟩
  determined := by
    intro step operation invoked host host' input input' calm calm' holds holds' same
    obtain ⟨stream, graph⟩ := input
    obtain ⟨stream', graph'⟩ := input'
    obtain ⟨sameStream, sameGraph⟩ := Prod.ext_iff.mp same
    rcases operation_of_namesSteps invoked.listed invoked.found with rfl | rfl | rfl
    · let cursor : Stream.Cursor :=
        .plain (.ready (.ofOutcomes [.ok (namesSetting.parameters step parametersSource)]))
      have contents (host : Host) : (host.openStream cursor).2.contents (host.openStream cursor).1 =
          some cursor := host.contents_openStream cursor
      exact congrArg (fun contents => (⟨true, (some contents, none), [], none⟩ : Account))
        ((contents host).trans (contents host').symm)
    · match stream, stream', sameStream with
      | none, none, _ => rfl
      | some stream, some stream', sameStream =>
          exact congrArg (fun contents =>
            (⟨true, (none, some (Rdf.Graph.ofList (mentions contents))), [], none⟩ : Account))
            (Option.some.inj sameStream)
    · match graph, graph', sameGraph with
      | none, none, _ => rfl
      | some shared, some shared', sameGraph =>
          exact congrArg (fun graph : Rdf.Graph =>
            (⟨true, (none, some graph), [("triples", .ofCount graph.size)], none⟩ : Account))
            (Option.some.inj sameGraph)

theorem fullyWired_names : ∀ step ∈ namesSteps, ∀ operation,
    recordOperations.get step.operation = .ok operation → step.inputs = [] →
    operation.type = .source := by
  intro step listed operation found unconnected
  simp only [namesSteps, List.mem_cons, List.not_mem_nil, or_false] at listed
  rcases listed with rfl | rfl | rfl | rfl | rfl
  · exact Except.ok.inj found ▸ rfl
  · exact Except.ok.inj found ▸ rfl
  all_goals cases unconnected

theorem apart_names :
    let report := run recordOperations (fun _ => none) ⟨"names", "Names", namesSteps, []⟩ [] false
      (.initial .empty .never)
    ∀ first ∈ namesSteps, ∀ second ∈ namesSteps,
      report.1.streamSource? first = report.1.streamSource? second →
      report.1.streamSource? first = none ∨ first.id = second.id := by
  decide +kernel

/-- Declared the other way round, the steps run in another order, with the same accounts. -/
theorem run_of_permuted_steps_names :
    let pipeline : Pipeline := ⟨"names", "Names", namesSteps, []⟩
    let pipeline' : Pipeline := ⟨"names", "Names", namesSteps.reverse, []⟩
    let host := Host.initial .empty .never
    let report := run recordOperations (fun _ => none) pipeline [] false host
    let report' := run recordOperations (fun _ => none) pipeline' [] false host
    report.1.results.map (·.step) = ["left", "right", "mentionLeft", "mentionRight", "both"] ∧
      report'.1.results.map (·.step) = ["right", "left", "mentionRight", "mentionLeft", "both"] ∧
      report'.1.success = true ∧ ∃ sorted sorted', ∀ step ∈ namesSteps, ∃ result result',
        report.1.result? step.id = some result ∧ report'.1.result? step.id = some result' ∧
        SameAccount namesSetting sorted sorted' host host step result result' := by
  intro pipeline pipeline' host report report'
  have permuted : pipeline.steps.Perm pipeline'.steps := (List.reverse_perm namesSteps).symm
  have sameVariables : pipeline'.mergedVariables [] = pipeline.mergedVariables [] := rfl
  have calm : Calm host := ⟨rfl, rfl⟩
  have success : report.1.success = true := by decide +kernel
  have once : ∀ first ∈ namesSteps, ∀ second ∈ namesSteps, ∀ id,
      report.1.streamSource? first = some id → report.1.streamSource? second = some id →
      first = second := by
    intro first firstListed second secondListed id firstSource secondSource
    have distinct : (namesSteps.map (·.id)).Nodup := by decide
    refine List.inj_on_of_nodup_map distinct firstListed secondListed ?_
    refine (apart_names first firstListed second secondListed
      (firstSource.trans secondSource.symm)).resolve_left fun nothing => ?_
    cases firstSource.symm.trans nothing
  obtain ⟨success', sorted, sorted', -, -, alike⟩ := run_of_permuted_steps permuted sameVariables
    fullyWired_names functional_names calm calm success once
  refine ⟨by decide +kernel, by decide +kernel, success', sorted, sorted', fun step listed => ?_⟩
  obtain ⟨result, result', found, found', same, -⟩ := alike step listed
  exact ⟨result, result', found, found', same⟩

end RdfPipeline.Pipeline
