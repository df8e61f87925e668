import RdfPipeline.Rdf.Graph

/-!
# RDF collections

Lists that a graph spells out by `rdf:first` and `rdf:rest`.
-/

set_option autoImplicit false

namespace RdfPipeline.Rdf

/-- Why a term is not the head of a collection. -/
inductive CollectionFault where
  | cycle
  | missingFirst
  | missingRest
  deriving DecidableEq, Repr

def CollectionFault.message : CollectionFault → String
  | .cycle => "RDF list contains a cycle"
  | .missingFirst => "malformed RDF list (missing rdf:first)"
  | .missingRest => "malformed RDF list (missing rdf:rest)"

/-- Follows the cells from `current`, none of which may be among the visited ones. Each cell takes
one of `fuel`. -/
def readCells (graph : Graph) :
    Nat → List Term → Term → Except CollectionFault (List Term)
  | fuel, visited, current =>
      if current = .iri (rdf "nil") then .ok []
      else if visited.contains current then .error .cycle
      else
        match graph.objectOf? current (rdf "first") with
        | none => .error .missingFirst
        | some first =>
            match graph.objectOf? current (rdf "rest") with
            | none => .error .missingRest
            | some rest =>
                match fuel with
                | 0 => .error .cycle
                | fuel + 1 => (readCells graph fuel (current :: visited) rest).map (first :: ·)

/-- The items of the collection that starts at `head`. A graph has at most as many cells as
triples. -/
def readCollection (graph : Graph) (head : Term) : Except CollectionFault (List Term) :=
  readCells graph graph.size [] head

end RdfPipeline.Rdf
