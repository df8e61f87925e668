import RdfPipeline.Operation.Basic

/-!
# Files as output

The input graph is written to a file as N-Triples.
-/

set_option autoImplicit false

namespace RdfPipeline.FileOutput

def id : String := "rdf-file-output"

def requireGraph (context : OperationContext) : Except EngineError Rdf.Graph :=
  match context.inputGraph with
  | some shared => .ok shared.graph
  | none => .error (.ofOperation id "No input graph provided")

/-- Writes a graph, making the directories above the file first. -/
def writeGraph (path : String) (graph : Rdf.Graph) : Activity Unit := do
  Activity.changeFiles fun files => files.makeParents path
  Activity.changeFiles fun files => files.write path (Files.encodeText graph.toNTriples)

def execute (context : OperationContext) : Activity OperationResult := do
  let path ← liftExcept (context.requireText id "filePath")
  let graph ← liftExcept (requireGraph context)
  writeGraph path graph
  Activity.log .info ("Wrote " ++ toString graph.size ++ " triples to " ++ path)
  Activity.countMetric "triplesWritten" graph.size
  return (OperationResult.succeeded.withMetadata "triplesWritten"
    (.ofCount graph.size)).withMetadata "filePath" (.text path)

def operation : Operation where
  id := id
  name := "RDF File Output"
  description := "Writes the input graph to a file as N-Triples"
  type := .output
  parameters :=
    [.mandatory "filePath" .string "Destination file, parent directories are created"]
  execute := execute

end RdfPipeline.FileOutput
