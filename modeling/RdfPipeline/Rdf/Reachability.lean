import RdfPipeline.Rdf.Graph

/-!
# Reachability in a graph

The terms that repeated steps over the triples of a graph lead to. A step that only leads to terms
of the graph finds nothing new after as many rounds as the graph has terms.
-/

set_option autoImplicit false

namespace RdfPipeline.Rdf

/-- Adds the new terms of `frontier` and what further steps lead to, in the order in which they are
found. -/
def extendReached (step : List Term → List Term) :
    Nat → List Term → List Term → List Term
  | 0, reached, _ => reached
  | rounds + 1, reached, frontier =>
      let fresh := (frontier.filter fun term => !reached.contains term).eraseDups
      if fresh = [] then reached
      else extendReached step rounds (reached ++ fresh) (step fresh)

/-- More rounds than the start and the graph have distinct terms. -/
def roundsFor (graph : Graph) (start : List Term) : Nat :=
  2 * graph.size + start.length + 1

/-- The start and everything that steps lead to from it. -/
def reachable (graph : Graph) (step : List Term → List Term) (start : List Term) : List Term :=
  extendReached step (roundsFor graph start) [] start

end RdfPipeline.Rdf
