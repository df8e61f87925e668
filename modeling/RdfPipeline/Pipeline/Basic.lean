import RdfPipeline.Registry

/-!
# Pipelines

A pipeline is a list of steps, each an operation with parameters and connections to the steps whose
output it takes. Checking a pipeline against a registry establishes what running it relies on.
-/

set_option autoImplicit false

namespace RdfPipeline

structure Pipeline.Position where
  x : Binary64
  y : Binary64
  deriving DecidableEq

structure Pipeline.Step where
  id : String
  /-- The id of the operation. -/
  operation : String
  name : String
  /-- Values, in which texts may refer to variables. -/
  parameters : Parameters
  /-- The ids of the steps whose output this one takes. -/
  inputs : List String
  outputs : List String
  position : Pipeline.Position

structure Pipeline where
  id : String
  name : String
  steps : List Pipeline.Step
  /-- Variables as far as a run does not bind them otherwise. -/
  bindings : Variables

namespace Pipeline

def Position.origin : Position :=
  ⟨Binary64.zero false, Binary64.zero false⟩

/-! ## Building -/

/-- A step that is named like its id. -/
def Step.of (id operation : String) : Step :=
  ⟨id, operation, id, [], [], [], .origin⟩

def Step.named (step : Step) (name : String) : Step :=
  { step with name }

def Step.withParameter (step : Step) (name : String) (value : Value) : Step :=
  { step with parameters := Dict.insert name value step.parameters }

def Step.withInputs (step : Step) (inputs : List String) : Step :=
  { step with inputs }

def Step.withOutputs (step : Step) (outputs : List String) : Step :=
  { step with outputs }

def Step.placedAt (step : Step) (position : Position) : Step :=
  { step with position }

/-- A pipeline without steps. -/
def named (id name : String) : Pipeline :=
  ⟨id, name, [], []⟩

def withStep (pipeline : Pipeline) (step : Step) : Pipeline :=
  { pipeline with steps := pipeline.steps ++ [step] }

def withVariable (pipeline : Pipeline) (name : String) (value : Value) : Pipeline :=
  { pipeline with bindings := Dict.insert name value pipeline.bindings }

/-! ## Views -/

/-- The name, or the id if the name is blank. -/
def Step.displayName (step : Step) : String :=
  if Text.isAllBlank step.name then step.id else step.name

def step? (pipeline : Pipeline) (id : String) : Option Step :=
  pipeline.steps.find? (·.id == id)

/-- The variables of the pipeline with those of a run over them. -/
def mergedVariables (pipeline : Pipeline) (overrides : Variables) : Variables :=
  Dict.insertAll pipeline.bindings overrides

/-! ## Equality -/

def Position.equals (left right : Position) : Bool :=
  left.x.numericallyEquals right.x && left.y.numericallyEquals right.y

def Step.equals (left right : Step) : Bool :=
  left.id == right.id && left.operation == right.operation && left.name == right.name &&
    Value.equalEntries left.parameters right.parameters && left.inputs == right.inputs &&
    left.outputs == right.outputs && left.position.equals right.position

def equalSteps : List Step → List Step → Bool
  | [], [] => true
  | left :: lefts, right :: rights => left.equals right && equalSteps lefts rights
  | _, _ => false

def equals (left right : Pipeline) : Bool :=
  left.id == right.id && left.name == right.name && equalSteps left.steps right.steps &&
    Value.equalEntries left.bindings right.bindings

/-! ## Checking -/

/-- The first fault among the ids: a blank one, or one that an earlier step has. -/
def checkIds (seen : List String) : List Step → Except EngineError Unit
  | [] => .ok ()
  | step :: rest =>
      if Text.isAllBlank step.id then .error (.invalidDefinition "Step with empty id")
      else if seen.contains step.id then
        .error (.invalidDefinition ("Duplicate step id '" ++ step.id ++ "'"))
      else checkIds (step.id :: seen) rest

/-- The inputs of a step have to be steps, and its operation has to be registered. -/
def checkStep (registry : Registry) (ids : List String) (step : Step) : Except EngineError Unit :=
  match step.inputs.find? fun input => !ids.contains input with
  | some missing =>
      .error (.invalidDefinition ("Step '" ++ step.id ++
        "' has an input connection to unknown step '" ++ missing ++ "'"))
  | none =>
      if registry.contains step.operation then .ok ()
      else .error (.unknownOperation step.operation)

/-- What a pipeline has to satisfy before its steps can be ordered. -/
def validate (pipeline : Pipeline) (registry : Registry) : Except EngineError Unit := do
  checkIds [] pipeline.steps
  pipeline.steps.forM (checkStep registry (pipeline.steps.map (·.id)))

end Pipeline

end RdfPipeline
