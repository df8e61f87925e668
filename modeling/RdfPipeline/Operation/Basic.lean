import RdfPipeline.Operation.Activity
import RdfPipeline.Operation.Declaration

/-!
# Operations

What an operation receives and returns, and the operations themselves.
-/

set_option autoImplicit false

namespace RdfPipeline

structure OperationContext where
  parameters : Parameters
  inputStream : Option RecordStream
  inputGraph : Option Rdf.SharedGraph
  bindings : Variables

namespace OperationContext

def ofParameters (parameters : Parameters) : OperationContext :=
  ⟨parameters, none, none, []⟩

def parameter? (context : OperationContext) (name : String) : Option Value :=
  (Dict.get? name context.parameters).filter fun value => !value.isNull

def text? (context : OperationContext) (name : String) : Option String :=
  (context.parameter? name).bind Value.asText?

def nonBlankText? (context : OperationContext) (name : String) : Option String :=
  (context.text? name).filter fun text => !Text.isAllBlank text

def requireText (context : OperationContext) (operation name : String) :
    Except EngineError String :=
  match context.nonBlankText? name with
  | some text => .ok text
  | none => .error (.ofOperation operation ("Missing required parameter '" ++ name ++ "'"))

def flag (context : OperationContext) (name : String) (default : Bool) : Bool :=
  ((context.parameter? name).bind Value.asBool?).getD default

def map? (context : OperationContext) (name : String) : Option (Dict Value) :=
  (context.parameter? name).bind Value.asMap?

end OperationContext

structure OperationResult where
  success : Bool
  outputStream : Option RecordStream
  outputGraph : Option Rdf.SharedGraph
  metadata : Dict Value
  error : Option String

namespace OperationResult

def succeeded : OperationResult := ⟨true, none, none, [], none⟩

def ofStream (stream : RecordStream) : OperationResult :=
  { succeeded with outputStream := some stream }

def ofGraph (graph : Rdf.SharedGraph) : OperationResult :=
  { succeeded with outputGraph := some graph }

def failed (message : String) : OperationResult := ⟨false, none, none, [], some message⟩

def withMetadata (result : OperationResult) (name : String) (value : Value) : OperationResult :=
  { result with metadata := Dict.insert name value result.metadata }

end OperationResult

/-- A unit of work of a pipeline. An invocation fails by an error or by a result without success. -/
structure Operation where
  id : String
  name : String
  description : String
  type : OperationType
  parameters : List ParameterSpec
  execute : OperationContext → Activity OperationResult

/-- The summary for catalogs; the last of several parameters of one name stays. -/
def Operation.info (operation : Operation) : OperationInfo where
  id := operation.id
  name := operation.name
  description := operation.description
  type := operation.type
  parameters := Dict.ofList (operation.parameters.map fun spec => (spec.name, spec))

end RdfPipeline
