import RdfPipeline.Pipeline.Order
import RdfPipeline.Pipeline.Parameters

/-!
# Running pipelines

A run executes the steps of a checked pipeline one after the other, hands the output of steps on to
those that take it, and tells what happens as a sequence of events. It ends at the first step
without success or at a request to cancel, and keeps the results up to there.
-/

set_option autoImplicit false

namespace RdfPipeline.Pipeline

inductive Event where
  | started (step name : String)
  | progress (step : String) (processed : Nat) (total : Option Nat)
  | log (step : String) (level : LogLevel) (message : String)
  | completed (step : String) (success : Bool)
  /-- The last event of a run, with the error if there is one. -/
  | finished (success : Bool) (error : Option String)
  deriving DecidableEq

/-- The stream and the graph that one step hands to another. -/
structure Payload where
  stream : Option RecordStream
  graph : Option Rdf.SharedGraph

def Payload.nothing : Payload := ⟨none, none⟩

structure StepResult where
  step : String
  operation : String
  success : Bool
  outputStream : Option RecordStream
  outputGraph : Option Rdf.SharedGraph
  metadata : Dict Value
  error : Option String

namespace StepResult

def ofOperation (step : Step) (result : OperationResult) : StepResult :=
  ⟨step.id, step.operation, result.success, result.outputStream, result.outputGraph,
    result.metadata, result.error⟩

def output (result : StepResult) : Payload :=
  ⟨result.outputStream, result.outputGraph⟩

def failed (step : Step) (message : String) : StepResult :=
  ofOperation step (.failed message)

/-- The result of an output step in a dry run. -/
def leftOut (step : Step) : StepResult :=
  ofOperation step
    ((OperationResult.succeeded.withMetadata "dryRun" (.bool true)).withMetadata
      "skipped" (.bool true))

/-- Whether the metadata say that the step was passed over. -/
def isSkipped (result : StepResult) : Bool :=
  ((Dict.get? "skipped" result.metadata).bind Value.asBool?).getD false

end StepResult

/-- The results of the steps so far, and where to find them. -/
structure Ledger where
  /-- In the order in which the steps ran. -/
  results : List StepResult
  /-- Where the latest result of each step stands. -/
  positions : Dict Nat
  /-- Where the result of the step before stands. -/
  previous : Option Nat

namespace Ledger

def empty : Ledger := ⟨[], [], none⟩

def record (ledger : Ledger) (result : StepResult) : Ledger where
  results := ledger.results ++ [result]
  positions := Dict.insert result.step ledger.results.length ledger.positions
  previous := some ledger.results.length

def result? (ledger : Ledger) (step : String) : Option StepResult :=
  (Dict.get? step ledger.positions).bind (ledger.results[·]?)

def previousResult? (ledger : Ledger) : Option StepResult :=
  ledger.previous.bind (ledger.results[·]?)

/-- The results of the connected steps, in the order of the connections. -/
def connectedResults (ledger : Ledger) (step : Step) : List StepResult :=
  step.inputs.filterMap ledger.result?

/-- The stream of the last connected step that has one. -/
def connectedStream (ledger : Ledger) (step : Step) : Option RecordStream :=
  ((ledger.connectedResults step).filterMap (·.outputStream)).getLast?

/-- The graphs of the connected steps that have one, in the order of the connections. -/
def connectedGraphs (ledger : Ledger) (step : Step) : List Rdf.SharedGraph :=
  (ledger.connectedResults step).filterMap (·.outputGraph)

end Ledger

structure Setting where
  registry : Registry
  environment : Environment
  bindings : Variables
  dryRun : Bool

structure State where
  host : Host
  ledger : Ledger
  events : List Event
  metrics : Dict Binary64

namespace State

def initial (host : Host) : State := ⟨host, .empty, [], []⟩

abbrev results (state : State) : List StepResult := state.ledger.results

def tell (state : State) (event : Event) : State :=
  { state with events := state.events ++ [event] }

def record (state : State) (result : StepResult) : State :=
  { state with ledger := state.ledger.record result }

/-- Passes on what an operation told in a step: metrics are kept under the names of the step and the
metric, all else becomes an event of the step. -/
def relay (step : String) (state : State) : Notice → State
  | .progress processed total => state.tell (.progress step processed total)
  | .log level message => state.tell (.log step level message)
  | .metric name value =>
      { state with metrics := Dict.insert (step ++ "." ++ name) value state.metrics }

end State

/-! ## Input -/

/-- The input of a step. Connections decide where there are some: the last stream and the union of
the graphs. Without them a source has no input, and any other step has the output of the step
before it. -/
def State.input (state : State) (step : Step) (type : OperationType) : Payload × State :=
  if step.inputs = [] then
    (if type = .source then .nothing
      else (state.ledger.previousResult?.map (·.output)).getD .nothing, state)
  else
    let (graph, host) := state.host.mergeGraphs (state.ledger.connectedGraphs step)
    (⟨state.ledger.connectedStream step, graph⟩, { state with host })

/-! ## Steps -/

def Setting.parameters (setting : Setting) (step : Step) (operation : Operation) : Parameters :=
  Parameters.applyDefaults
    (Parameters.resolve step.parameters setting.bindings setting.environment)
    operation.parameters

/-- What the operation of a step is invoked with. -/
def Setting.context (setting : Setting) (step : Step) (operation : Operation) (input : Payload) :
    OperationContext :=
  ⟨setting.parameters step operation, input.stream, input.graph, setting.bindings⟩

def invocationResult (step : Step) : Except EngineError OperationResult → StepResult
  | .ok result => .ofOperation step result
  | .error error => .failed step (error.inStep step.id).reasonOrMessage

/-- Invokes the operation of a step and relays what it tells. -/
def invoke (setting : Setting) (step : Step) (operation : Operation) (input : Payload)
    (state : State) : StepResult × State :=
  let (outcome, session) :=
    operation.execute (setting.context step operation input) ⟨state.host, []⟩
  (invocationResult step outcome,
    session.notices.foldl (State.relay step.id) { state with host := session.host })

/-- Ends a step with its result. A step without success is the failure of the run. -/
def conclude (step : Step) (result : StepResult) (state : State) : Except EngineError Unit × State :=
  let state := (state.record result).tell (.completed step.id result.success)
  if result.success then (.ok (), state)
  else
    (.error (.pipelineExecution
      ("Step '" ++ step.displayName ++ "' failed: " ++ result.error.getD "unknown error")), state)

/-- Tells of the start of a step and looks up its input. -/
def State.begin (state : State) (step : Step) (operation : Operation) : Payload × State :=
  (state.tell (.started step.id step.displayName)).input step operation.type

/-- Whether a step is left out as an output step of a dry run. -/
def Setting.leavesOut (setting : Setting) (operation : Operation) : Bool :=
  setting.dryRun && operation.type == .output

/-- Runs one step. In a dry run output steps are passed over. -/
def runStep (setting : Setting) (step : Step) (operation : Operation) (state : State) :
    Except EngineError Unit × State :=
  let (input, state) := state.begin step operation
  if setting.leavesOut operation then
    conclude step (.leftOut step) (state.tell (.log step.id .info "Dry run: output step skipped"))
  else
    let (result, state) := invoke setting step operation input state
    conclude step result state

theorem runStep_of_leavesOut {setting : Setting} {operation : Operation}
    (left : setting.leavesOut operation = true) (step : Step) (state : State) :
    runStep setting step operation state =
      conclude step (.leftOut step) ((state.begin step operation).2.tell
        (.log step.id .info "Dry run: output step skipped")) := by
  simp only [runStep, if_pos left]

theorem runStep_of_not_leavesOut {setting : Setting} {operation : Operation}
    (invoked : setting.leavesOut operation = false) (step : Step) (state : State) :
    runStep setting step operation state =
      conclude step
        (invoke setting step operation (state.begin step operation).1
          (state.begin step operation).2).1
        (invoke setting step operation (state.begin step operation).1
          (state.begin step operation).2).2 := by
  simp only [runStep, invoked, Bool.false_eq_true, if_false]

def State.poll (state : State) : Bool × State :=
  let (requested, host) := state.host.poll
  (requested, { state with host })

/-- Runs steps in the given order up to the first failure. -/
def runSteps (setting : Setting) : List Step → State → Except EngineError Unit × State
  | [], state => (.ok (), state)
  | step :: rest, state =>
      match state.poll with
      | (true, state) => (.error (.cancelled (some step.id)), state)
      | (false, state) =>
          match setting.registry.get step.operation with
          | .error error => (.error error, state)
          | .ok operation =>
              match runStep setting step operation state with
              | (.error error, state) => (.error error, state)
              | (.ok (), state) => runSteps setting rest state

/-! ## Runs -/

structure Run where
  pipeline : String
  success : Bool
  error : Option String
  metrics : Dict Binary64
  /-- In the order in which the steps ran. -/
  results : List StepResult
  events : List Event

def Run.result? (run : Run) (step : String) : Option StepResult :=
  run.results.find? (·.step == step)

/-- The steps of a pipeline that can run, in their order. -/
def plan (registry : Registry) (pipeline : Pipeline) : Except EngineError (List Step) := do
  pipeline.validate registry
  order pipeline.steps

def runPlan (setting : Setting) (pipeline : Pipeline) (state : State) :
    Except EngineError Unit × State :=
  match plan setting.registry pipeline with
  | .error error => (.error error, state)
  | .ok steps => runSteps setting steps state

def errorText? : Except EngineError Unit → Option String
  | .ok _ => none
  | .error error => some error.message

def run (registry : Registry) (environment : Environment) (pipeline : Pipeline)
    (bindings : Variables) (dryRun : Bool) (host : Host) : Run × Host :=
  let setting : Setting :=
    ⟨registry, environment, pipeline.mergedVariables bindings, dryRun⟩
  let (verdict, state) := runPlan setting pipeline (.initial host)
  let error := errorText? verdict
  let state := state.tell (.finished error.isNone error)
  (⟨pipeline.id, error.isNone, error, state.metrics, state.results, state.events⟩, state.host)

end RdfPipeline.Pipeline
