import RdfPipeline.Rdf.Reachability

/-!
# Property paths

Paths through a graph, their texts, and the terms that they lead to.
-/

set_option autoImplicit false

namespace RdfPipeline.Shape

open Rdf (Graph Iri Term)

inductive Path where
  | predicate (iri : Iri)
  | inverse (path : Path)
  | sequence (parts : List Path)
  | alternative (parts : List Path)
  | zeroOrMore (path : Path)
  | oneOrMore (path : Path)
  | zeroOrOne (path : Path)

namespace Path

def asPredicate? : Path → Option Iri
  | .predicate iri => some iri
  | _ => none

mutual

/-- The path as SPARQL writes it, sequences and alternatives in parentheses. -/
def toText : Path → String
  | .predicate iri => iri.toText
  | .inverse path => "^" ++ toText path
  | .sequence parts => "(" ++ String.intercalate "/" (partTexts parts) ++ ")"
  | .alternative parts => "(" ++ String.intercalate "|" (partTexts parts) ++ ")"
  | .zeroOrMore path => toText path ++ "*"
  | .oneOrMore path => toText path ++ "+"
  | .zeroOrOne path => toText path ++ "?"

def partTexts : List Path → List String
  | [] => []
  | part :: rest => toText part :: partTexts rest

end

/-- Terms one triple away, against the direction of the predicate if `backward`. -/
def neighbours (graph : Graph) (backward : Bool) (predicate : Iri) (terms : List Term) :
    List Term :=
  (terms.flatMap fun term =>
    if backward then (graph.subjects predicate term).map Rdf.Subject.toTerm
    else graph.objectsOf term predicate).eraseDups

mutual

/-- The terms at the other end of the path from some of the given ones, each once. A backward walk
follows the path from its end. -/
def walk (graph : Graph) (backward : Bool) : Path → List Term → List Term
  | .predicate iri, terms => neighbours graph backward iri terms
  | .inverse path, terms => walk graph (!backward) path terms
  | .sequence parts, terms =>
      (if backward then walkSequenceBackward graph parts terms
        else walkSequence graph parts terms).eraseDups
  | .alternative parts, terms => (walkAlternatives graph backward parts terms).eraseDups
  | .zeroOrOne path, terms => (terms ++ walk graph backward path terms).eraseDups
  | .zeroOrMore path, terms =>
      (terms ++ Rdf.reachable graph (walk graph backward path)
        (walk graph backward path terms)).eraseDups
  | .oneOrMore path, terms =>
      (Rdf.reachable graph (walk graph backward path)
        (walk graph backward path terms)).eraseDups

def walkSequence (graph : Graph) : List Path → List Term → List Term
  | [], terms => terms
  | part :: rest, terms => walkSequence graph rest (walk graph false part terms)

def walkSequenceBackward (graph : Graph) : List Path → List Term → List Term
  | [], terms => terms
  | part :: rest, terms => walk graph true part (walkSequenceBackward graph rest terms)

def walkAlternatives (graph : Graph) (backward : Bool) : List Path → List Term → List Term
  | [], _ => []
  | part :: rest, terms =>
      walk graph backward part terms ++ walkAlternatives graph backward rest terms

end

/-- The terms that the path leads to from a focus node. -/
def values (graph : Graph) (path : Path) (focus : Term) : List Term :=
  walk graph false path [focus]

end Path

end RdfPipeline.Shape
