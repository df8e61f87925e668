import RdfPipeline.Pattern.Parser
import RdfPipeline.Shape.Path
import RdfPipeline.Shape.Vocabulary

/-!
# Shapes

Node and property shapes with their targets and constraints, and the collection of all shapes of a
document.
-/

set_option autoImplicit false

namespace RdfPipeline

open Rdf (Iri Literal Term)

inductive Shape.Severity where
  | info
  | warning
  | violation
  deriving DecidableEq, Repr

inductive Shape.Target where
  | instancesOf (iri : Iri)
  | node (term : Term)
  | subjectsOf (predicate : Iri)
  | objectsOf (predicate : Iri)
  deriving DecidableEq, Repr

inductive Shape.NodeKind where
  | iri
  | blankNode
  | literal
  | blankNodeOrIri
  | blankNodeOrLiteral
  | iriOrLiteral
  deriving DecidableEq, Repr

/-- One condition on the value nodes of a focus node. -/
inductive Shape.Constraint where
  | instanceOf (iri : Iri)
  | datatype (iri : Iri)
  | nodeKind (kind : Shape.NodeKind)
  | minCount (count : Nat)
  | maxCount (count : Nat)
  | minInclusive (bound : Literal)
  | maxInclusive (bound : Literal)
  | minExclusive (bound : Literal)
  | maxExclusive (bound : Literal)
  | minLength (length : Nat)
  | maxLength (length : Nat)
  | pattern (source : String) (flags : Option String) (pattern : Pattern)
  | languageIn (ranges : List String)
  | uniqueLanguage
  | equals (predicate : Iri)
  | disjoint (predicate : Iri)
  | lessThan (predicate : Iri)
  | lessThanOrEquals (predicate : Iri)
  | among (terms : List Term)
  | hasValue (term : Term)
  | node (shape : Term)
  | not (shape : Term)
  | and (shapes : List Term)
  | or (shapes : List Term)
  | exactlyOne (shapes : List Term)
  | closed (ignored : List Iri)

/-- A node shape, or a property shape if it has a path. -/
structure Shape where
  id : Term
  targets : List Shape.Target
  path : Option Shape.Path
  constraints : List Shape.Constraint
  /-- The property shapes that its value nodes have to meet. -/
  properties : List Term
  severity : Shape.Severity
  message : Option String
  name : Option String
  deactivated : Bool

namespace Shape

def Severity.iri : Severity → Iri
  | .info => sh "Info"
  | .warning => sh "Warning"
  | .violation => sh "Violation"

def Severity.toText : Severity → String
  | .info => "INFO"
  | .warning => "WARNING"
  | .violation => "VIOLATION"

def NodeKind.all : List NodeKind :=
  [.iri, .blankNode, .literal, .blankNodeOrIri, .blankNodeOrLiteral, .iriOrLiteral]

def NodeKind.name : NodeKind → String
  | .iri => "IRI"
  | .blankNode => "BlankNode"
  | .literal => "Literal"
  | .blankNodeOrIri => "BlankNodeOrIRI"
  | .blankNodeOrLiteral => "BlankNodeOrLiteral"
  | .iriOrLiteral => "IRIOrLiteral"

def NodeKind.ofIri? (iri : Iri) : Option NodeKind :=
  NodeKind.all.find? fun kind => sh kind.name = iri

def NodeKind.admits (kind : NodeKind) (term : Term) : Bool :=
  match kind, term with
  | .iri, .iri _ => true
  | .blankNode, .blank _ => true
  | .literal, .literal _ => true
  | .blankNodeOrIri, .iri _ => true
  | .blankNodeOrIri, .blank _ => true
  | .blankNodeOrLiteral, .blank _ => true
  | .blankNodeOrLiteral, .literal _ => true
  | .iriOrLiteral, .iri _ => true
  | .iriOrLiteral, .literal _ => true
  | _, _ => false

/-- The part of the component's name that is particular to the constraint. -/
def Constraint.name : Constraint → String
  | .instanceOf _ => "Class"
  | .datatype _ => "Datatype"
  | .nodeKind _ => "NodeKind"
  | .minCount _ => "MinCount"
  | .maxCount _ => "MaxCount"
  | .minInclusive _ => "MinInclusive"
  | .maxInclusive _ => "MaxInclusive"
  | .minExclusive _ => "MinExclusive"
  | .maxExclusive _ => "MaxExclusive"
  | .minLength _ => "MinLength"
  | .maxLength _ => "MaxLength"
  | .pattern .. => "Pattern"
  | .languageIn _ => "LanguageIn"
  | .uniqueLanguage => "UniqueLang"
  | .equals _ => "Equals"
  | .disjoint _ => "Disjoint"
  | .lessThan _ => "LessThan"
  | .lessThanOrEquals _ => "LessThanOrEquals"
  | .among _ => "In"
  | .hasValue _ => "HasValue"
  | .node _ => "Node"
  | .not _ => "Not"
  | .and _ => "And"
  | .or _ => "Or"
  | .exactlyOne _ => "Xone"
  | .closed _ => "Closed"

def Constraint.component (constraint : Constraint) : Iri :=
  sh (constraint.name ++ "ConstraintComponent")

def Constraint.references : Constraint → List Term
  | .node shape => [shape]
  | .not shape => [shape]
  | .and shapes => shapes
  | .or shapes => shapes
  | .exactlyOne shapes => shapes
  | _ => []

/-- All shapes that a shape refers to, property shapes first. -/
def references (shape : Shape) : List Term :=
  shape.properties ++ shape.constraints.flatMap Constraint.references

def isPropertyShape (shape : Shape) : Bool :=
  shape.path.isSome

def hasTargets (shape : Shape) : Bool :=
  shape.targets != []

end Shape

/-- The shapes of one document, each under its own id. -/
structure ShapesGraph where
  shapes : List Shape
  /-- The ids of the shapes with targets, ordered by their texts. -/
  targeted : List Term

namespace ShapesGraph

def empty : ShapesGraph :=
  ⟨[], []⟩

def get? (shapes : ShapesGraph) (id : Term) : Option Shape :=
  shapes.shapes.find? (·.id = id)

theorem id_of_get? {shapes : ShapesGraph} {id : Term} {shape : Shape}
    (found : shapes.get? id = some shape) : shape.id = id := by
  simpa using List.find?_some found

def size (shapes : ShapesGraph) : Nat :=
  shapes.shapes.length

def targetedShapes (shapes : ShapesGraph) : List Shape :=
  shapes.targeted.filterMap shapes.get?

end ShapesGraph

end RdfPipeline
