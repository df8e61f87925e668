import RdfPipeline.Proofs.Operation.GraphNumbers
import RdfPipeline.Proofs.Pipeline.Reaching
import RdfPipeline.Proofs.Pipeline.StepEffect
import RdfPipeline.Proofs.Rdf.Union

/-!
# What steps receive

When a step runs, every step that it is connected to has run with success, and nothing that those
hand on gets lost: the step receives the union of their graphs and the last of their streams, and it
is with these that its operation is executed.
-/

set_option autoImplicit false

namespace RdfPipeline.Pipeline

open Rdf (SharedGraph)

/-! ## Numbers of graph objects -/

/-- The graph objects of all results have numbers that were given out. -/
def Numbered (state : State) : Prop :=
  ∀ result ∈ state.results, ∀ shared, result.outputGraph = some shared →
    shared.identity < state.host.freshGraphs

theorem mergeGraphs_freshGraphs (host : Host) (parts : List SharedGraph) :
    host.freshGraphs ≤ (host.mergeGraphs parts).2.freshGraphs := by
  unfold Host.mergeGraphs
  split
  · exact Nat.le_succ _
  · exact Nat.le_refl _

theorem mergeGraphs_identity_lt {host : Host} {parts : List SharedGraph} {merged : SharedGraph}
    (numbered : ∀ part ∈ parts, part.identity < host.freshGraphs)
    (union : (host.mergeGraphs parts).1 = some merged) :
    merged.identity < (host.mergeGraphs parts).2.freshGraphs := by
  rcases Rdf.merge_cases union with alone | ⟨several, new⟩
  · have member : merged ∈ parts := by simp [alone]
    exact Nat.lt_of_lt_of_le (numbered merged member) (mergeGraphs_freshGraphs host parts)
  · rw [new]
    simp only [Host.mergeGraphs, if_pos several]
    exact Nat.lt_succ_self _

/-! ## Looking up what is connected -/

namespace Ledger

theorem mem_results_of_result? {ledger : Ledger} {step : String} {result : StepResult}
    (found : ledger.result? step = some result) : result ∈ ledger.results := by
  obtain ⟨position, -, there⟩ := Option.bind_eq_some_iff.mp found
  exact List.mem_of_getElem? there

theorem mem_results_of_previousResult? {ledger : Ledger} {result : StepResult}
    (found : ledger.previousResult? = some result) : result ∈ ledger.results := by
  obtain ⟨position, -, there⟩ := Option.bind_eq_some_iff.mp found
  exact List.mem_of_getElem? there

theorem exists_of_mem_connectedResults {ledger : Ledger} {step : Step} {result : StepResult}
    (connected : result ∈ ledger.connectedResults step) :
    ∃ input ∈ step.inputs, ledger.result? input = some result :=
  List.mem_filterMap.mp connected

theorem mem_results_of_mem_connectedGraphs {ledger : Ledger} {step : Step} {shared : SharedGraph}
    (connected : shared ∈ ledger.connectedGraphs step) :
    ∃ result ∈ ledger.results, result.outputGraph = some shared := by
  obtain ⟨result, supplies, handsOn⟩ := List.mem_filterMap.mp connected
  obtain ⟨input, -, found⟩ := exists_of_mem_connectedResults supplies
  exact ⟨result, mem_results_of_result? found, handsOn⟩

/-- Looking up steps that all have results skips none of them. -/
theorem Indexed.filterMap_result? {ledger : Ledger} (indexed : ledger.Indexed)
    {inputs : List String} (recorded : ∀ input ∈ inputs, input ∈ ledger.results.map (·.step)) :
    (inputs.filterMap ledger.result?).map (·.step) = inputs ∧
      ∀ result ∈ inputs.filterMap ledger.result?, ledger.result? result.step = some result := by
  induction inputs with
  | nil => simp
  | cons input rest ih =>
      obtain ⟨inputRecorded, restRecorded⟩ := List.forall_mem_cons.mp recorded
      obtain ⟨steps, lookedUp⟩ := ih restRecorded
      obtain ⟨result, -, found, rfl⟩ := indexed.exists_result inputRecorded
      rw [List.filterMap_cons_some found]
      exact ⟨by rw [List.map_cons, steps], List.forall_mem_cons.mpr ⟨found, lookedUp⟩⟩

end Ledger

/-! ## The invariant of numbers -/

theorem begin_numbered {state : State} (numbered : Numbered state) (step : Step)
    (operation : Operation) :
    state.host.freshGraphs ≤ (state.begin step operation).2.host.freshGraphs ∧
      ∀ received, (state.begin step operation).1.graph = some received →
        received.identity < (state.begin step operation).2.host.freshGraphs := by
  by_cases unconnected : step.inputs = []
  · rw [begin_of_unconnected unconnected]
    refine ⟨Nat.le_refl _, fun received there => ?_⟩
    dsimp only at there
    split at there
    · cases there
    · cases found : state.ledger.previousResult? with
      | none =>
          rw [found] at there
          cases there
      | some previous =>
          rw [found] at there
          exact numbered previous (Ledger.mem_results_of_previousResult? found) received there
  · rw [begin_of_connected unconnected]
    refine ⟨mergeGraphs_freshGraphs _ _, fun received union => ?_⟩
    refine mergeGraphs_identity_lt (fun part connected => ?_) union
    obtain ⟨result, member, handsOn⟩ := Ledger.mem_results_of_mem_connectedGraphs connected
    exact numbered result member part handsOn

theorem Effect.numbered {step : Step} {before after : State} {result : StepResult} {host : Host}
    {verdict : Except EngineError Unit} (effect : Effect step before result host verdict after)
    (numbered : Numbered before) (mono : before.host.freshGraphs ≤ host.freshGraphs)
    (new : ∀ shared, result.outputGraph = some shared → shared.identity < host.freshGraphs) :
    Numbered after := by
  intro other member shared handsOn
  rw [State.results, effect.ledger] at member
  rw [effect.host]
  rcases List.mem_append.mp member with old | isNew
  · exact Nat.lt_of_lt_of_le (numbered other old shared handsOn) mono
  · obtain rfl : other = result := by simpa using isNew
    exact new shared handsOn

theorem runStep_numbered (setting : Setting) (step : Step) {operation : Operation} {state : State}
    (numbers : operation.NumbersGraphs) (numbered : Numbered state) :
    Numbered (runStep setting step operation state).2 := by
  obtain ⟨begunMono, receivedLt⟩ := begin_numbered numbered step operation
  cases left : setting.leavesOut operation with
  | true =>
      refine (effect_of_leftOut left state).numbered numbered begunMono fun shared none => ?_
      cases none
  | false =>
      obtain ⟨executedMono, executedLt⟩ :=
        numbers (setting.context step operation (state.begin step operation).1)
      have grows := executedMono ⟨(state.begin step operation).2.host, []⟩
      refine (effect_of_invoked left state).numbered numbered (begunMono.trans grows)
        fun shared handsOn => ?_
      cases outcome : (execution setting step operation state).1 with
      | error error =>
          rw [outcome] at handsOn
          cases handsOn
      | ok result =>
          rw [outcome] at handsOn
          exact executedLt _ result shared receivedLt outcome handsOn

theorem Starts.numbered {setting : Setting} {before ready : State} {step : Step}
    {operation : Operation} (starts : Starts setting before step operation ready)
    (numbered : Numbered before) : Numbered ready := by
  intro result member shared handsOn
  rw [State.results, starts.extends.ledger] at member
  rw [starts.host_eq]
  exact numbered result member shared handsOn

theorem Reaches.numbered {setting : Setting} {host : Host} {ran : List Step} {state : State}
    (numbers : ∀ id operation, setting.registry.get id = .ok operation → operation.NumbersGraphs)
    (reached : Reaches setting (.initial host) ran state) : Numbered state := by
  induction reached with
  | start =>
      intro result none
      cases none
  | @next ran step operation before ready after reached starts succeeded ih =>
      have afterwards :=
        runStep_numbered setting step (numbers _ _ starts.found) (starts.numbered ih)
      rwa [succeeded] at afterwards

/-! ## What a step receives -/

/-- All that the suppliers of a step hand on is in what the step receives. -/
structure Collects (suppliers : List StepResult) (received : Payload) : Prop where
  graph_eq_none_iff : received.graph = none ↔
    ∀ supplier ∈ suppliers, supplier.outputGraph = none
  mem_graph_iff : ∀ shared, received.graph = some shared → ∀ triple, triple ∈ shared.graph ↔
    ∃ supplier ∈ suppliers, ∃ part, supplier.outputGraph = some part ∧ triple ∈ part.graph
  graph_of_single : ∀ single, suppliers.filterMap (·.outputGraph) = [single] →
    received.graph = some single
  stream_eq_some_iff : ∀ stream, received.stream = some stream ↔
    ∃ before last after, suppliers = before ++ last :: after ∧
      last.outputStream = some stream ∧ ∀ later ∈ after, later.outputStream = none

theorem filterMap_getLast?_eq_some_iff {α β : Type} {f : α → Option β} {items : List α}
    {value : β} :
    (items.filterMap f).getLast? = some value ↔
      ∃ before last after, items = before ++ last :: after ∧ f last = some value ∧
        ∀ later ∈ after, f later = none := by
  rw [List.getLast?_filterMap, List.findSome?_eq_some_iff]
  constructor
  · rintro ⟨after, last, before, split, gives, none⟩
    refine ⟨before.reverse, last, after.reverse, ?_, gives, ?_⟩
    · rw [← List.reverse_reverse items, split]
      simp
    · simpa using none
  · rintro ⟨before, last, after, rfl, gives, none⟩
    exact ⟨after.reverse, last, before.reverse, by simp, gives, by simpa using none⟩

theorem begin_collects {step : Step} {operation : Operation} (connected : step.inputs ≠ [])
    (state : State) :
    Collects (state.ledger.connectedResults step) (state.begin step operation).1 := by
  rw [begin_of_connected connected]
  constructor
  · change Rdf.merge _ _ = none ↔ _
    rw [Rdf.merge_eq_none_iff, Ledger.connectedGraphs, List.filterMap_eq_nil_iff]
  · intro shared union triple
    rw [Rdf.mem_merge_iff union]
    constructor
    · rintro ⟨part, supplied, member⟩
      obtain ⟨supplier, supplies, handsOn⟩ := List.mem_filterMap.mp supplied
      exact ⟨supplier, supplies, part, handsOn, member⟩
    · rintro ⟨supplier, supplies, part, handsOn, member⟩
      exact ⟨part, List.mem_filterMap.mpr ⟨supplier, supplies, handsOn⟩, member⟩
  · intro single alone
    change Rdf.merge _ _ = some single
    rw [Ledger.connectedGraphs, alone]
    rfl
  · intro stream
    exact filterMap_getLast?_eq_some_iff

/-- A graph object that a step receives is one that was handed on before only if it comes over a
single connection. -/
theorem connectedGraphs_eq_of_identity_eq {step : Step} {operation : Operation} {state : State}
    (numbered : Numbered state) (connected : step.inputs ≠ []) {shared : SharedGraph}
    (received : (state.begin step operation).1.graph = some shared) {result : StepResult}
    (recorded : result ∈ state.results) {part : SharedGraph}
    (handsOn : result.outputGraph = some part) (same : part.identity = shared.identity) :
    state.ledger.connectedGraphs step = [shared] := by
  rw [begin_of_connected connected] at received
  rcases Rdf.merge_cases received with alone | ⟨-, new⟩
  · exact alone
  · have old := numbered result recorded part handsOn
    rw [same, new] at old
    exact absurd old (Nat.lt_irrefl _)

/-- The operation of a step is executed with what the step receives, and the step is recorded with
what that comes to. -/
theorem runStep_executes {setting : Setting} {operation : Operation}
    (live : setting.leavesOut operation = false) (step : Step) (state : State) :
    let context := setting.context step operation (state.begin step operation).1
    (⟨context.inputStream, context.inputGraph⟩ : Payload) = (state.begin step operation).1 ∧
      (runStep setting step operation state).2.results = state.results ++
        [invocationResult step
          (operation.execute context ⟨(state.begin step operation).2.host, []⟩).1] := by
  refine ⟨rfl, ?_⟩
  rw [State.results, (effect_of_invoked live state).ledger]
  rfl

/-- When a step is about to run, all steps that it is connected to have run with success, and none
of their results is skipped. The step receives the union of their graphs, which is one of these as
an object exactly if a single connection supplies one, and the last of their streams. Without
connections a source receives nothing, and any other step what the step immediately before it
hands on. What the step receives is what its operation is executed with, unless the step is left
out. -/
theorem begin_receives_all {setting : Setting} {pipeline : Pipeline} {host : Host}
    {ran rest : List Step} {step : Step} {operation : Operation} {ready : State}
    (about : AboutToRun setting pipeline host ran step rest operation ready) :
    ready.ledger.Indexed ∧
    (∃ suppliers : List StepResult, ready.ledger.connectedResults step = suppliers ∧
      suppliers.map (·.step) = step.inputs ∧
      (∀ supplier ∈ suppliers, ready.ledger.result? supplier.step = some supplier ∧
        supplier.success = true) ∧
      (step.inputs ≠ [] → Collects suppliers (ready.begin step operation).1 ∧
        ((∀ id operation, setting.registry.get id = .ok operation → operation.NumbersGraphs) →
          ∀ shared, (ready.begin step operation).1.graph = some shared →
            ((∃ supplier ∈ suppliers, ∃ part, supplier.outputGraph = some part ∧
              part.identity = shared.identity) ↔
              suppliers.filterMap (·.outputGraph) = [shared])))) ∧
    (step.inputs = [] → operation.type = .source → (ready.begin step operation).1 = .nothing) ∧
    (step.inputs = [] → operation.type ≠ .source →
      (ran = [] → (ready.begin step operation).1 = .nothing) ∧
      ∀ earlier last, ran = earlier ++ [last] →
        ∃ previous, ready.results.getLast? = some previous ∧ previous.step = last.id ∧
          (ready.begin step operation).1 = previous.output) ∧
    (setting.leavesOut operation = false →
      let context := setting.context step operation (ready.begin step operation).1
      (⟨context.inputStream, context.inputGraph⟩ : Payload) = (ready.begin step operation).1 ∧
      (runStep setting step operation ready).2.results = ready.results ++
        [invocationResult step
          (operation.execute context ⟨(ready.begin step operation).2.host, []⟩).1]) := by
  have recorded := about.recorded
  have inputsRan : ∀ input ∈ step.inputs, input ∈ ready.results.map (·.step) := by
    intro input connected
    rw [State.results, recorded.steps]
    exact about.taken.1.inputsFirst ran step rest rfl input connected
  obtain ⟨steps, lookedUp⟩ := recorded.indexed.filterMap_result? inputsRan
  refine ⟨recorded.indexed, ⟨_, rfl, steps, ?_, ?_⟩, ?_, ?_,
    fun live => runStep_executes live step ready⟩
  · intro supplier supplies
    have found := lookedUp supplier supplies
    exact ⟨found, recorded.successful supplier (Ledger.mem_results_of_result? found)⟩
  · intro connected
    refine ⟨begin_collects connected ready, fun numbers shared received => ⟨?_, ?_⟩⟩
    · rintro ⟨supplier, supplies, part, handsOn, same⟩
      obtain ⟨before, reached, starts⟩ := about.reached
      exact connectedGraphs_eq_of_identity_eq (starts.numbered (reached.numbered numbers)) connected
        received (Ledger.mem_results_of_result? (lookedUp supplier supplies)) handsOn same
    · intro alone
      have supplied : shared ∈ ready.ledger.connectedGraphs step := by
        rw [Ledger.connectedGraphs, alone]
        exact List.mem_singleton_self shared
      obtain ⟨supplier, supplies, handsOn⟩ := List.mem_filterMap.mp supplied
      exact ⟨supplier, supplies, shared, handsOn, rfl⟩
  · intro unconnected isSource
    rw [begin_of_unconnected unconnected, if_pos isSource]
  · intro unconnected noSource
    rw [begin_of_unconnected unconnected, if_neg noSource, recorded.indexed.last]
    refine ⟨?_, ?_⟩
    · rintro rfl
      have none : ready.ledger.results = [] := by simpa using recorded.steps
      rw [none]
      rfl
    · rintro earlier last rfl
      obtain ⟨previous, isLast, same, -⟩ := recorded.last List.getLast?_concat
      refine ⟨previous, isLast, same, ?_⟩
      rw [isLast]
      rfl

/-! Two documents, and declared before them a step that is connected to both. -/

def load (id : String) : Step :=
  (Step.of id "rdf-source").withParameter "content" (.text "<urn:a> <urn:b> <urn:c> .")

def checkBoth : Step :=
  (Step.of "check" "shacl-validation").withInputs ["left", "right"]

def checkDocuments : Pipeline :=
  ⟨"documents", "Documents", [checkBoth, load "left", load "right"], []⟩

theorem begin_receives_all_checkDocuments :
    ∃ ready, AboutToRun ⟨.withBuiltins {}, fun _ => none, [], false⟩ checkDocuments
        (.initial Files.empty .never) [load "left", load "right"] checkBoth []
        (Shape.operation {}) ready ∧
      (∃ context : OperationContext,
        (⟨context.inputStream, context.inputGraph⟩ : Payload) =
          (ready.begin checkBoth (Shape.operation {})).1 ∧
        (runStep ⟨.withBuiltins {}, fun _ => none, [], false⟩ checkBoth (Shape.operation {})
            ready).2.results = ready.results ++
          [invocationResult checkBoth ((Shape.operation {}).execute context
            ⟨(ready.begin checkBoth (Shape.operation {})).2.host, []⟩).1]) ∧
      ∃ suppliers, suppliers.map StepResult.step = ["left", "right"] ∧
        Collects suppliers (ready.begin checkBoth (Shape.operation {})).1 ∧
        ∀ shared, (ready.begin checkBoth (Shape.operation {})).1.graph = some shared →
          ((∃ supplier ∈ suppliers, ∃ part, supplier.outputGraph = some part ∧
            part.identity = shared.identity) ↔
            suppliers.filterMap (·.outputGraph) = [shared]) := by
  let setting : Setting := ⟨.withBuiltins {}, fun _ => none, [], false⟩
  let start : State := .initial (.initial Files.empty .never)
  have valid : checkDocuments.validate (.withBuiltins {}) = .ok () := by decide +kernel
  have ordered : order checkDocuments.steps =
      .ok ([load "left", load "right"] ++ [checkBoth]) := by
    cbv
  have planned := plan_eq_ok_iff.mpr ⟨validate_eq_ok_iff.mp valid, ordered⟩
  have succeeded : (runSteps setting [load "left", load "right"] start).1 = .ok () := by
    decide +kernel
  have unrequested : (runSteps setting [load "left", load "right"] start).2.poll.1 = false := by
    decide +kernel
  have reached := runSteps_eq_ok_iff.mp (Prod.ext succeeded rfl)
  have starts : Starts setting _ checkBoth (Shape.operation {}) _ :=
    ⟨Prod.ext unrequested rfl, rfl⟩
  have about : AboutToRun setting checkDocuments (.initial Files.empty .never) _ checkBoth []
      (Shape.operation {}) _ := ⟨planned, _, reached, starts⟩
  obtain ⟨-, ⟨suppliers, -, steps, -, receives⟩, -, -, executes⟩ := begin_receives_all about
  obtain ⟨collects, sameObject⟩ := receives (by decide)
  have numbers : ∀ id operation, setting.registry.get id = .ok operation →
      operation.NumbersGraphs := fun _ _ found => builtin_numbersGraphs (mem_builtins_of_get found)
  exact ⟨_, about, ⟨_, executes rfl⟩, suppliers, steps, collects, sameObject numbers⟩

end RdfPipeline.Pipeline
