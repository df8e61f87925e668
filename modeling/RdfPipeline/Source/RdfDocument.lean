import RdfPipeline.Source.Input

/-!
# RDF documents as a source

The graph of a Turtle or N-Triples document.
-/

set_option autoImplicit false

namespace RdfPipeline.Source.RdfDocument

def id : String := "rdf-source"

def parseFormat (context : OperationContext) : Except EngineError Rdf.Format :=
  match context.nonBlankText? "format" with
  | some name => (Rdf.Format.parse name).mapError (.ofOperation id)
  | none => .ok .turtle

/-- Reads a graph; errors become errors of this operation. -/
def parseGraph (format : Rdf.Format) (text : String) (supply : Nat) :
    Except EngineError (Rdf.Graph × Nat) :=
  (Rdf.parseDocument format supply text).mapError fun error => .ofOperation id error.message

def execute (context : OperationContext) : Activity OperationResult := do
  let format ← liftExcept (parseFormat context)
  let text ← readInputText id context
  let graph ← Activity.withFreshNodes (parseGraph format text)
  Activity.countMetric "triplesLoaded" graph.size
  let shared ← Activity.shareGraph graph
  return (OperationResult.ofGraph shared).withMetadata "tripleCount" (.ofCount graph.size)

def operation : Operation where
  id := id
  name := "RDF Source"
  description := "Parses Turtle or N-Triples into a graph"
  type := .source
  parameters :=
    inputSpecs "Path of the RDF document" "Inline RDF text, used when no filePath is set" ++
      [(ParameterSpec.optional "format" .string "turtle or ntriples").withDefault (.text "turtle")]
  execute := execute

end RdfPipeline.Source.RdfDocument
