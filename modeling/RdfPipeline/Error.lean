/-!
# Errors

What can go wrong in a pipeline, each kind with its own data, and the one place where errors are
put into words.
-/

set_option autoImplicit false

namespace RdfPipeline

/-- Standard formats whose readers tell only accepted texts from refused ones. -/
inductive TextFormat where
  | json
  | turtle
  | nTriples
  | csv
  | regularExpression
  | iri
  | definition
  deriving DecidableEq, Repr

/-- What is said of a text that its reader refuses. -/
def TextFormat.complaint : TextFormat → String
  | .json => "the text is not a JSON document"
  | .turtle => "the text is not a Turtle document"
  | .nTriples => "the text is not an N-Triples document"
  | .csv => "the bytes cannot be read as CSV"
  | .regularExpression => "the text is not a regular expression"
  | .iri => "the text is not an absolute IRI"
  | .definition => "the document does not describe a pipeline"

def TextFormat.all : List TextFormat :=
  [.json, .turtle, .nTriples, .csv, .regularExpression, .iri, .definition]

inductive EngineError where
  | unknownOperation (operation : String)
  /-- The steps that wait for each other, or for one that does. -/
  | circularDependency (steps : List String)
  | invalidDefinition (reason : String)
  | operation (operation : String) (step : Option String) (reason : String)
  | pipelineExecution (reason : String)
  | template (template : String) (reason : String)
  | shapes (reason : String)
  | rdfParse (reason : String)
  | io (reason : String)
  | cancelled (step : Option String)
  | external (reason : String)
  | internal (reason : String)
  deriving DecidableEq, Repr

namespace EngineError

/-- An error of an operation that is not yet tied to a step. -/
def ofOperation (id reason : String) : EngineError :=
  .operation id none reason

def stepPhrase : Option String → String
  | some step => " in step '" ++ step ++ "'"
  | none => ""

def message : EngineError → String
  | .unknownOperation id => "Unknown operation: " ++ id
  | .circularDependency steps =>
      "Circular dependency detected among steps: " ++ String.intercalate ", " steps
  | .invalidDefinition reason => "Invalid pipeline definition: " ++ reason
  | .operation id step reason =>
      "Operation '" ++ id ++ "' failed" ++ stepPhrase step ++ ": " ++ reason
  | .pipelineExecution reason => "Pipeline execution failed: " ++ reason
  | .template text reason => "Invalid URI template '" ++ text ++ "': " ++ reason
  | .shapes reason => "Invalid shapes graph: " ++ reason
  | .rdfParse reason => "RDF parse error: " ++ reason
  | .io reason => "I/O error: " ++ reason
  | .cancelled step => "Execution cancelled" ++ stepPhrase step
  | .external reason =>
      "Error in operation implementation or external collaborator. Source: " ++ reason
  | .internal reason => "Internal engine error: " ++ reason

/-- Ties an error of an operation, or a cancellation, to a step unless it has one. -/
def inStep (step : String) : EngineError → EngineError
  | .operation id none reason => .operation id (some step) reason
  | .cancelled none => .cancelled (some step)
  | other => other

/-- The reason alone for errors of operations, the whole message for all others. -/
def reasonOrMessage : EngineError → String
  | .operation _ _ reason => reason
  | other => other.message

end EngineError

end RdfPipeline
