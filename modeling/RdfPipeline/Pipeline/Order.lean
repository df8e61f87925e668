import RdfPipeline.Pipeline.Basic

/-!
# The order of steps

Steps come after all their inputs. They are taken in passes over the list: a pass takes every step
whose inputs have been taken before it, and a pass that takes none leaves only steps that wait for
each other.
-/

set_option autoImplicit false

namespace RdfPipeline.Pipeline

/-- Whether a step of this id has been taken. -/
def isTaken (order : List Step) (id : String) : Bool :=
  order.any (·.id == id)

/-- Takes a step if it is new and all its inputs have been taken. -/
def takeReady (order : List Step) (step : Step) : List Step :=
  if isTaken order step.id then order
  else if step.inputs.all (isTaken order) then order ++ [step]
  else order

def pass (steps order : List Step) : List Step :=
  steps.foldl takeReady order

/-- Passes until all steps are taken or a pass takes none. -/
def takeAll (steps order : List Step) : Except EngineError (List Step) :=
  if order.length < steps.length then
    if order.length < (pass steps order).length then takeAll steps (pass steps order)
    else
      .error (.circularDependency
        ((steps.filter fun step => !isTaken order step.id).map (·.id)))
  else .ok order
termination_by steps.length - order.length

/-- The first step, if any, with an input that is no step, and that input. -/
def unknownInput? (steps : List Step) : Option (Step × String) :=
  steps.findSome? fun step =>
    (step.inputs.find? fun input => !isTaken steps input).map fun missing => (step, missing)

/-- The steps in the order in which they run. -/
def order (steps : List Step) : Except EngineError (List Step) :=
  match unknownInput? steps with
  | some (step, missing) =>
      .error (.invalidDefinition
        ("Step '" ++ step.id ++ "' depends on unknown step '" ++ missing ++ "'"))
  | none => takeAll steps []

end RdfPipeline.Pipeline
