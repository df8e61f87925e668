import RdfPipeline.Config
import RdfPipeline.Mapping.Row

/-!
# Mapping as an operation

The rows of the input stream, one after the other, become one graph.
-/

set_option autoImplicit false

namespace RdfPipeline.Mapping

open Rdf (Graph)

/-- The rows that have been mapped and their triples. -/
structure Progress where
  processed : Nat
  graph : Graph

/-- Whether progress is told after this many rows. -/
def isMilestone (interval processed : Nat) : Bool :=
  processed % max interval 1 == 0

def mapOutcome (plan : Plan) (interval : Nat) (outcome : Outcome) (progress : Progress) :
    Activity Progress := do
  Activity.checkCancelled
  let record ← liftExcept outcome
  let processed := progress.processed + 1
  let triples ← liftExcept (plan.rowTriples record processed)
  if isMilestone interval processed then Activity.tell (.progress processed none)
  return ⟨processed, progress.graph.insertAll triples⟩

def conclude (progress : Progress) : Activity OperationResult := do
  let ⟨processed, graph⟩ := progress
  Activity.tell (.progress processed (some processed))
  Activity.log .info
    ("Mapped " ++ toString processed ++ " rows into " ++ toString graph.size ++ " triples")
  Activity.countMetric "rowsProcessed" processed
  Activity.countMetric "triplesGenerated" graph.size
  let shared ← Activity.shareGraph graph
  return ((OperationResult.ofGraph shared).withMetadata "rowsProcessed"
    (.ofCount processed)).withMetadata "triplesGenerated" (.ofCount graph.size)

/-- The rows of the input stream, which has to be there and not taken yet. -/
def takeRows (context : OperationContext) : Activity Stream.Cursor := do
  match ← context.inputStream.mapM Activity.takeStream with
  | some (some rows) => return rows
  | _ => throw (.ofOperation id "No input stream provided")

def execute (interval : Nat) (context : OperationContext) : Activity OperationResult := do
  let rows ← takeRows context
  let plan ← liftExcept (Plan.ofContext context)
  conclude (← Activity.forEach (mapOutcome plan interval) rows ⟨0, Graph.empty⟩)

def operation (config : Config) : Operation where
  id := id
  name := "RDF Mapping"
  description := "Maps records to RDF triples using column to property mappings"
  type := .transform
  parameters :=
    [ .mandatory "baseUri" .uri "Namespace for minted subjects",
      .optional "subjectColumn" .string "Column whose value names the subject",
      .optional "subjectTemplate" .string
        "URI template for subjects, e.g. \x7byear\x7d/\x7bid\x7d",
      .optional "typeUri" .uri "rdf:type given to every subject",
      .mandatory "propertyMappings" .map "Column to predicate IRI",
      .optional "datatypeMappings" .map "Column to XSD datatype (local name or IRI)" ]
  execute := execute config.progressInterval

end RdfPipeline.Mapping
