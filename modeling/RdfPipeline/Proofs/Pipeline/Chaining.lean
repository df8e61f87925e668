import RdfPipeline.Builtins
import RdfPipeline.Proofs.Pipeline.Reaching
import RdfPipeline.Proofs.Pipeline.StepEffect

/-!
# Spelling out implicit connections

A step without connections takes its input from the step before it. Connecting it to that step
explicitly changes neither the order of the steps nor anything that a run does.
-/

set_option autoImplicit false

namespace RdfPipeline.Pipeline

open Relation

/-! ## Explicit connections -/

/-- Whether a step has no connection but takes input: it is no source. -/
def takesPrevious (registry : Registry) (step : Step) : Bool :=
  step.inputs.isEmpty && !(registry.get? step.operation).any (·.type == .source)

/-- The step that runs immediately before the one with the given id. -/
def stepBefore? (sorted : List Step) (id : String) : Option Step :=
  (sorted.takeWhile (·.id != id)).getLast?

def explicitInputs (registry : Registry) (sorted : List Step) (step : Step) : List String :=
  if takesPrevious registry step then ((stepBefore? sorted step.id).map (·.id)).toList
  else step.inputs

def Step.spellOut (registry : Registry) (sorted : List Step) (step : Step) : Step :=
  step.withInputs (explicitInputs registry sorted step)

/-- Connects every step that takes input without a connection to the step that runs immediately
before it, if there is one. -/
def spellOut (registry : Registry) (sorted : List Step) (pipeline : Pipeline) : Pipeline :=
  { pipeline with steps := pipeline.steps.map (Step.spellOut registry sorted) }

theorem takesPrevious_iff {registry : Registry} {step : Step} :
    takesPrevious registry step = true ↔
      step.inputs = [] ∧ ∀ operation, registry.get step.operation = .ok operation →
        operation.type ≠ .source := by
  simp only [takesPrevious, Registry.get_eq_ok_iff]
  cases registry.get? step.operation <;> simp

theorem stepBefore?_eq {before rest : List Step} {step : Step}
    (new : step.id ∉ before.map (·.id)) :
    stepBefore? (before ++ step :: rest) step.id = before.getLast? := by
  have others : ∀ earlier ∈ before, (earlier.id != step.id) = true := by
    intro earlier member
    rw [bne_iff_ne]
    rintro same
    exact new (same ▸ List.mem_map_of_mem member)
  rw [stepBefore?, List.takeWhile_append_of_pos others]
  simp

theorem mem_of_stepBefore? {sorted : List Step} {id : String} {before : Step}
    (found : stepBefore? sorted id = some before) : before ∈ sorted :=
  (List.takeWhile_sublist _).subset (List.mem_of_getLast? found)

@[simp] theorem spellOut_id (registry : Registry) (sorted : List Step) (step : Step) :
    (step.spellOut registry sorted).id = step.id := rfl

theorem map_spellOut_ids (registry : Registry) (sorted steps : List Step) :
    (steps.map (Step.spellOut registry sorted)).map (·.id) = steps.map (·.id) := by
  rw [List.map_map]
  rfl

/-- A step keeps its inputs, or it had none and is now connected to the step before it. -/
theorem spellOut_inputs_cases (registry : Registry) (sorted : List Step) (step : Step) :
    (step.spellOut registry sorted).inputs = step.inputs ∨
      step.inputs = [] ∧ ∃ before, stepBefore? sorted step.id = some before ∧
        (step.spellOut registry sorted).inputs = [before.id] := by
  change explicitInputs registry sorted step = step.inputs ∨
    step.inputs = [] ∧ ∃ before, stepBefore? sorted step.id = some before ∧
      explicitInputs registry sorted step = [before.id]
  unfold explicitInputs
  split
  next takes =>
    have unconnected := (takesPrevious_iff.mp takes).1
    cases found : stepBefore? sorted step.id with
    | none => exact .inl unconnected.symm
    | some before => exact .inr ⟨unconnected, before, rfl, rfl⟩
  next => exact .inl rfl

/-! ## The order -/

theorem isTaken_map_spellOut (registry : Registry) (sorted order : List Step) :
    isTaken (order.map (Step.spellOut registry sorted)) = isTaken order := by
  funext id
  rw [Bool.eq_iff_iff, isTaken_iff, isTaken_iff, map_spellOut_ids]

/-- A step that is taken next in the order is ready for its explicit connection. -/
theorem takeReady_spellOut (registry : Registry) {sorted order : List Step} {step : Step}
    (next : takeReady order step <+: sorted) :
    takeReady (order.map (Step.spellOut registry sorted)) (step.spellOut registry sorted) =
      (takeReady order step).map (Step.spellOut registry sorted) := by
  by_cases known : isTaken order step.id = true
  · simp only [takeReady, isTaken_map_spellOut, spellOut_id, if_pos known]
  · rcases spellOut_inputs_cases registry sorted step with same | ⟨unconnected, before, found, only⟩
    · simp only [takeReady, isTaken_map_spellOut, spellOut_id, if_neg known, same]
      split
      · rw [List.map_append]
        rfl
      · rfl
    · have taken : takeReady order step = order ++ [step] := by
        simp [takeReady, known, unconnected]
      rw [taken] at next ⊢
      obtain ⟨rest, split⟩ := next
      have new : step.id ∉ order.map (·.id) := fun member => known (isTaken_iff.mpr member)
      have isLast : order.getLast? = some before := by
        rw [← stepBefore?_eq new, ← found, ← split, List.append_assoc]
        rfl
      have ready : isTaken order before.id = true :=
        isTaken_iff.mpr (List.mem_map_of_mem (List.mem_of_getLast? isLast))
      simp [takeReady, isTaken_map_spellOut, known, only, ready]

theorem foldl_takeReady_spellOut (registry : Registry) {sorted order candidates : List Step}
    (next : candidates.foldl takeReady order <+: sorted) :
    (candidates.map (Step.spellOut registry sorted)).foldl takeReady
        (order.map (Step.spellOut registry sorted)) =
      (candidates.foldl takeReady order).map (Step.spellOut registry sorted) := by
  induction candidates generalizing order with
  | nil => rfl
  | cons step rest ih =>
      have first := (prefix_foldl_takeReady rest (takeReady order step)).trans next
      rw [List.map_cons, List.foldl_cons, List.foldl_cons, takeReady_spellOut registry first]
      exact ih next

theorem prefix_of_takeAll_eq_ok {steps order sorted : List Step}
    (complete : takeAll steps order = .ok sorted) : order <+: sorted := by
  fun_induction takeAll steps order with
  | case1 order incomplete progress ih =>
      exact (prefix_foldl_takeReady steps order).trans (ih complete)
  | case2 order incomplete noProgress => cases complete
  | case3 order complete' =>
      cases complete
      exact List.prefix_rfl

theorem takeAll_spellOut (registry : Registry) {steps order sorted : List Step}
    (complete : takeAll steps order = .ok sorted) :
    takeAll (steps.map (Step.spellOut registry sorted))
        (order.map (Step.spellOut registry sorted)) =
      .ok (sorted.map (Step.spellOut registry sorted)) := by
  fun_induction takeAll steps order with
  | case1 order incomplete progress ih =>
      have next : pass steps order <+: sorted := prefix_of_takeAll_eq_ok complete
      have passed : pass (steps.map (Step.spellOut registry sorted))
          (order.map (Step.spellOut registry sorted)) =
          (pass steps order).map (Step.spellOut registry sorted) :=
        foldl_takeReady_spellOut registry next
      rw [takeAll, passed]
      simp only [List.length_map, if_pos incomplete, if_pos progress]
      exact ih complete
  | case2 order incomplete noProgress => cases complete
  | case3 order complete' =>
      cases complete
      rw [takeAll, if_neg (by simpa using complete')]

theorem Checked.spellOut {registry : Registry} {steps sorted : List Step}
    (checked : Checked registry steps) (listed : sorted ⊆ steps) :
    Checked registry (steps.map (Step.spellOut registry sorted)) := by
  refine ⟨⟨?_, ?_⟩, ?_, ?_⟩
  · rw [map_spellOut_ids]
    exact checked.distinct
  · rw [map_spellOut_ids]
    refine List.forall_mem_map.mpr fun step member input connected => ?_
    rcases spellOut_inputs_cases registry sorted step with same | ⟨-, before, found, only⟩
    · exact checked.known step member input (same ▸ connected)
    · obtain rfl : input = before.id := by simpa [only] using connected
      exact List.mem_map_of_mem (listed (mem_of_stepBefore? found))
  · exact List.forall_mem_map.mpr checked.named
  · exact List.forall_mem_map.mpr checked.registered

theorem order_spellOut {registry : Registry} {steps sorted : List Step}
    (checked : Checked registry steps) (ordered : order steps = .ok sorted) :
    Checked registry (steps.map (Step.spellOut registry sorted)) ∧
      order (steps.map (Step.spellOut registry sorted)) =
        .ok (sorted.map (Step.spellOut registry sorted)) := by
  obtain ⟨taken, -⟩ := taken_of_order_eq_ok checked.toWired ordered
  have explicit := checked.spellOut taken.listed
  refine ⟨explicit, ?_⟩
  rw [order_eq_takeAll checked.toWired] at ordered
  rw [order_eq_takeAll explicit.toWired]
  exact takeAll_spellOut registry ordered

/-! ## The run -/

/-- The inputs of a step matter for what it begins with and for nothing else. -/
theorem runStep_withInputs {setting : Setting} {step : Step} {operation : Operation}
    {state : State} {inputs : List String}
    (same : state.begin (step.withInputs inputs) operation = state.begin step operation) :
    runStep setting (step.withInputs inputs) operation state =
      runStep setting step operation state := by
  simp only [runStep, same]
  rfl

/-- A single connection to the step that ran last gives what that step handed on. -/
theorem begin_withInputs_previous {step before : Step} {operation : Operation} {state : State}
    {previous : StepResult} (unconnected : step.inputs = []) (noSource : operation.type ≠ .source)
    (found : state.ledger.result? before.id = some previous)
    (isLast : state.ledger.previousResult? = some previous) :
    state.begin (step.withInputs [before.id]) operation = state.begin step operation := by
  have connected : (step.withInputs [before.id]).inputs ≠ [] := by simp [Step.withInputs]
  have results : state.ledger.connectedResults (step.withInputs [before.id]) = [previous] := by
    simp [Ledger.connectedResults, Step.withInputs, found]
  rw [begin_of_connected connected, begin_of_unconnected unconnected, if_neg noSource, isLast]
  simp only [Ledger.connectedStream, Ledger.connectedGraphs, results]
  cases stream : previous.outputStream <;> cases graph : previous.outputGraph <;>
    simp [StepResult.output, stream, graph, Host.mergeGraphs, Rdf.merge] <;> rfl

/-- Steps that run alike, and runs that go on alike behind them. -/
theorem runSteps_cons_withInputs {setting : Setting} {step : Step} {inputs : List String}
    {rest rest' : List Step} {state : State}
    (sameStep : ∀ operation ready, Starts setting state step operation ready →
      runStep setting (step.withInputs inputs) operation ready =
        runStep setting step operation ready)
    (sameRest : ∀ operation ready after, Starts setting state step operation ready →
      runStep setting step operation ready = (.ok (), after) →
      runSteps setting rest' after = runSteps setting rest after) :
    runSteps setting (step.withInputs inputs :: rest') state =
      runSteps setting (step :: rest) state := by
  cases polling : state.poll with
  | mk requested polled =>
    cases requested with
    | true =>
        simp only [runSteps, polling]
        rfl
    | false =>
        cases found : setting.registry.get step.operation with
        | error error =>
            have alsoMissing : setting.registry.get (step.withInputs inputs).operation =
                .error error := found
            simp only [runSteps, polling, found, alsoMissing]
        | ok operation =>
            have starts : Starts setting state step operation polled := ⟨polling, found⟩
            have alsoStarts : Starts setting state (step.withInputs inputs) operation polled :=
              ⟨polling, found⟩
            cases running : runStep setting step operation polled with
            | mk verdict after =>
              have alsoRunning := (sameStep operation polled starts).trans running
              cases verdict with
              | error error =>
                  rw [runSteps_of_failed starts running, runSteps_of_failed alsoStarts alsoRunning]
              | ok done =>
                  rw [runSteps_of_succeeded starts running,
                    runSteps_of_succeeded alsoStarts alsoRunning]
                  exact sameRest operation polled after starts running

theorem runStep_spellOut {setting : Setting} {host : Host} {ran rest : List Step} {step : Step}
    {operation : Operation} {before ready : State} (new : step.id ∉ ran.map (·.id))
    (reached : Reaches setting (.initial host) ran before)
    (starts : Starts setting before step operation ready) :
    runStep setting (step.spellOut setting.registry (ran ++ step :: rest)) operation ready =
      runStep setting step operation ready := by
  refine runStep_withInputs ?_
  unfold explicitInputs
  split
  next takes =>
    obtain ⟨unconnected, noSource⟩ := takesPrevious_iff.mp takes
    rw [stepBefore?_eq new]
    cases isLast : ran.getLast? with
    | none =>
        change ready.begin (step.withInputs []) operation = ready.begin step operation
        rw [← unconnected]
        rfl
    | some last =>
        have recorded : Recorded ran ready.ledger := by
          rw [starts.extends.ledger]
          exact reached.recorded
        obtain ⟨previous, lastResult, -, lastFound⟩ := recorded.last isLast
        exact begin_withInputs_previous unconnected (noSource operation starts.found) lastFound
          (recorded.indexed.last.trans lastResult)
  next => rfl

theorem runSteps_spellOut {setting : Setting} {host : Host} {ran rest : List Step} {state : State}
    (distinct : ((ran ++ rest).map (·.id)).Nodup)
    (reached : Reaches setting (.initial host) ran state) :
    runSteps setting (rest.map (Step.spellOut setting.registry (ran ++ rest))) state =
      runSteps setting rest state := by
  induction rest generalizing ran state with
  | nil => rfl
  | cons step rest ih =>
      refine runSteps_cons_withInputs (fun operation ready starts => ?_)
        (fun operation ready after starts succeeded => ?_)
      · exact runStep_spellOut (id_not_mem_of_nodup distinct) reached starts
      · have split : ran ++ step :: rest = (ran ++ [step]) ++ rest := by simp
        rw [split] at distinct ⊢
        exact ih distinct (reached.next starts succeeded)

theorem run_eq_of_plan {registry : Registry} {pipeline : Pipeline} {sorted : List Step}
    (planned : plan registry pipeline = .ok sorted)
    (explicit : plan registry (pipeline.spellOut registry sorted) =
      .ok (sorted.map (Step.spellOut registry sorted)))
    (environment : Environment) (bindings : Variables) (dryRun : Bool) (host : Host) :
    run registry environment (pipeline.spellOut registry sorted) bindings dryRun host =
      run registry environment pipeline bindings dryRun host := by
  obtain ⟨checked, ordered⟩ := plan_eq_ok_iff.mp planned
  obtain ⟨taken, -⟩ := taken_of_order_eq_ok checked.toWired ordered
  let setting : Setting :=
    ⟨registry, environment, pipeline.mergedVariables bindings, dryRun⟩
  have sameSteps : runPlan setting (pipeline.spellOut registry sorted) (.initial host) =
      runPlan setting pipeline (.initial host) := by
    simp only [runPlan, setting, planned, explicit]
    exact @runSteps_spellOut setting host [] sorted _ taken.distinct .start
  exact run_congr rfl sameSteps

/-- Connecting every step that takes input without a connection to the step that runs immediately
before it gives a sound pipeline with the same order, and every run of it is the same: the events,
the results with their streams and graph objects, the metrics, the outcome and the host. -/
theorem run_spellOut {registry : Registry} {pipeline : Pipeline}
    (valid : pipeline.validate registry = .ok ())
    (acyclic : ¬ ∃ step ∈ pipeline.steps, TransGen (DependsOn pipeline.steps) step step) :
    ∃ sorted, order pipeline.steps = .ok sorted ∧
      (pipeline.spellOut registry sorted).validate registry = .ok () ∧
      (¬ ∃ step ∈ (pipeline.spellOut registry sorted).steps,
        TransGen (DependsOn (pipeline.spellOut registry sorted).steps) step step) ∧
      (∃ explicit, order (pipeline.spellOut registry sorted).steps = .ok explicit ∧
        explicit.map (·.id) = sorted.map (·.id)) ∧
      ∀ environment bindings dryRun host,
        run registry environment (pipeline.spellOut registry sorted) bindings dryRun host =
          run registry environment pipeline bindings dryRun host := by
  have checked := validate_eq_ok_iff.mp valid
  obtain ⟨sorted, ordered⟩ := (exists_order_iff checked.toWired).mpr acyclic
  obtain ⟨explicitChecked, explicitOrdered⟩ := order_spellOut checked ordered
  refine ⟨sorted, ordered, validate_eq_ok_iff.mpr explicitChecked, ?_, ?_, ?_⟩
  · exact (exists_order_iff explicitChecked.toWired).mp ⟨_, explicitOrdered⟩
  · exact ⟨_, explicitOrdered, map_spellOut_ids registry sorted sorted⟩
  · exact run_eq_of_plan (plan_eq_ok_iff.mpr ⟨checked, ordered⟩)
      (plan_eq_ok_iff.mpr ⟨explicitChecked, explicitOrdered⟩)

/-! A writer that is declared first, and the chain in front of it, in which a step takes the records
of the step before it without a connection. -/

def looselyWired : Pipeline :=
  ⟨"publish", "Publish",
    [(Step.of "write" "rdf-file-output").withInputs ["map"], .of "read" "csv-source",
      .of "map" "rdf-mapping"], []⟩

theorem run_spellOut_looselyWired :
    ∃ sorted, order looselyWired.steps = .ok sorted ∧
      (spellOut (.withBuiltins {}) sorted looselyWired).steps.map (·.inputs) =
        [["map"], [], ["read"]] ∧
      ∀ environment bindings dryRun host,
        run (.withBuiltins {}) environment (spellOut (.withBuiltins {}) sorted looselyWired)
            bindings dryRun host =
          run (.withBuiltins {}) environment looselyWired bindings dryRun host := by
  have valid : looselyWired.validate (.withBuiltins {}) = .ok () := by decide +kernel
  have ordered : order looselyWired.steps =
      .ok [.of "read" "csv-source", .of "map" "rdf-mapping",
        (Step.of "write" "rdf-file-output").withInputs ["map"]] := by
    cbv
  have acyclic := (exists_order_iff (validate_eq_ok_iff.mp valid).toWired).mp ⟨_, ordered⟩
  obtain ⟨sorted, sortedEq, -, -, -, same⟩ := run_spellOut valid acyclic
  obtain rfl := Except.ok.inj (ordered.symm.trans sortedEq)
  exact ⟨_, ordered, by decide +kernel, same⟩

end RdfPipeline.Pipeline
