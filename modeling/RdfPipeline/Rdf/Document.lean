import RdfPipeline.Error
import RdfPipeline.Rdf.NTriples
import RdfPipeline.Rdf.Turtle
import RdfPipeline.Text.Blank

/-!
# RDF documents

The supported document formats and the graphs they denote.
-/

set_option autoImplicit false

namespace RdfPipeline.Rdf

inductive Format where
  | turtle
  | nTriples
  deriving DecidableEq, Repr

/-- A format by one of its names, in any case and with blanks around it. -/
def Format.parse (name : String) : Except String Format :=
  let word := Text.lowerAscii (Text.trim name)
  if word ∈ ["turtle", "ttl"] then .ok .turtle
  else if word ∈ ["ntriples", "n-triples", "nt"] then .ok .nTriples
  else .error ("unsupported RDF format '" ++ word ++ "'")

/-- The graph of a document, and the supply of fresh blank nodes that is left. -/
def parseDocument (format : Format) (supply : Nat) (text : String) :
    Except EngineError (Graph × Nat) :=
  match format with
  | .turtle =>
      match Turtle.parse? supply text with
      | some result => .ok result
      | none => .error (.rdfParse TextFormat.turtle.complaint)
  | .nTriples =>
      match NTriples.parse? text with
      | some graph => .ok (graph, supply)
      | none => .error (.rdfParse TextFormat.nTriples.complaint)

/-- A graph together with the number of the object that holds it. -/
structure SharedGraph where
  identity : Nat
  graph : Graph

/-- Union of the graphs of all inputs. One input alone is passed on as the same object. -/
def merge (identity : Nat) : List SharedGraph → Option SharedGraph
  | [] => none
  | [single] => some single
  | many => some ⟨identity, Graph.ofList (many.flatMap (·.graph.triples))⟩

end RdfPipeline.Rdf
