import RdfPipeline.Decimal.Integer
import RdfPipeline.Rdf.Collection
import RdfPipeline.Rdf.Document
import RdfPipeline.Shape.Basic

/-!
# Shapes of a graph

Reads the shapes that a graph describes: the nodes that are typed as shapes, have a target or a
path, and all nodes that these refer to as shapes.
-/

set_option autoImplicit false

namespace RdfPipeline.Shape

open Rdf (Graph Iri Literal Term rdf xsd)

inductive Fault where
  | expectedIri (shape : Term) (property : String) (found : Term)
  | expectedLiteral (shape : Term) (property : String) (found : Term)
  | expectedCount (shape : Term) (property : String) (text : String)
  | expectedInteger (shape : Term) (property : String) (found : Term)
  | unknownNodeKind (shape : Term) (kind : Iri)
  | invalidPattern (shape : Term) (pattern : String)
  | collection (head : Term) (fault : Rdf.CollectionFault)
  | pathTooDeep (node : Term)
  | shortSequence (node : Term)
  | unsupportedPath (node : Term)
  | literalPath (node : Term)
  deriving DecidableEq, Repr

def Fault.message : Fault → String
  | .expectedIri shape property found =>
      shape.toText ++ ": " ++ property ++ " expects an IRI, got " ++ found.toText
  | .expectedLiteral shape property found =>
      shape.toText ++ ": " ++ property ++ " expects a literal, got " ++ found.toText
  | .expectedCount shape property text =>
      shape.toText ++ ": " ++ property ++ " expects a non-negative integer, got '" ++ text ++ "'"
  | .expectedInteger shape property found =>
      shape.toText ++ ": " ++ property ++ " expects an integer literal, got " ++ found.toText
  | .unknownNodeKind shape kind => shape.toText ++ ": unknown sh:nodeKind " ++ kind.toText
  | .invalidPattern shape pattern =>
      shape.toText ++ ": invalid sh:pattern '" ++ pattern ++ "': " ++
        TextFormat.regularExpression.complaint
  | .collection head fault => head.toText ++ ": " ++ fault.message
  | .pathTooDeep node => node.toText ++ ": property path nested too deeply"
  | .shortSequence node => node.toText ++ ": sequence path needs at least two members"
  | .unsupportedPath node => node.toText ++ ": unsupported property path"
  | .literalPath node => node.toText ++ ": sh:path must be an IRI or a blank node"

/-! ## Reading single values -/

def expectIri (shape : Term) (property : String) (found : Term) : Except Fault Iri :=
  match found with
  | .iri iri => .ok iri
  | other => .error (.expectedIri shape property other)

/-- A count, written as an integer or as a plain text. -/
def expectCount (shape : Term) (property : String) (found : Term) : Except Fault Nat :=
  match found with
  | .literal literal =>
      if literal.datatype = xsd "integer" ∨ literal.datatype = xsd "string" then
        match Decimal.parseCount (Text.trim literal.lexical) with
        | .ok count => .ok count
        | .error _ => .error (.expectedCount shape property literal.lexical)
      else .error (.expectedInteger shape property found)
  | other => .error (.expectedInteger shape property other)

def expectLiteral (shape : Term) (property : String) (found : Term) : Except Fault Literal :=
  match found with
  | .literal literal => .ok literal
  | other => .error (.expectedLiteral shape property other)

def readCollection (graph : Graph) (head : Term) : Except Fault (List Term) :=
  (Rdf.readCollection graph head).mapError (.collection head)

/-- The lexical form of the first object, if that is a literal. -/
def literalText? (graph : Graph) (id : Term) (property : String) : Option String :=
  (graph.objectOf? id (sh property)).bind Term.lexical?

def isTrue (graph : Graph) (id : Term) (property : String) : Bool :=
  match literalText? graph id property with
  | some text => text == "true" || text == "1"
  | none => false

def hasType (graph : Graph) (id : Term) (type : Iri) : Bool :=
  (graph.objectsOf id (rdf "type")).contains (.iri type)

/-! ## Paths -/

def maxPathDepth : Nat := 16

/-- The paths that wrap one other path, in the order in which they are looked for. -/
def wrappers : List (String × (Path → Path)) :=
  [ ("inversePath", .inverse), ("zeroOrMorePath", .zeroOrMore), ("oneOrMorePath", .oneOrMore),
    ("zeroOrOnePath", .zeroOrOne) ]

/-- The first wrapper that a node has, with the node of the path inside. -/
def wrapper? (graph : Graph) (node : Term) : Option ((Path → Path) × Term) :=
  wrappers.findSome? fun (property, wrap) =>
    (graph.objectOf? node (sh property)).map fun inner => (wrap, inner)

/-- Reads the path that a node spells out, with fewer than `levels` levels of nesting. -/
def readPath (graph : Graph) : Nat → Term → Except Fault Path
  | 0, node => .error (.pathTooDeep node)
  | levels + 1, node =>
      match node with
      | .iri iri => .ok (.predicate iri)
      | .literal _ => .error (.literalPath node)
      | .blank _ =>
          match wrapper? graph node with
          | some (wrap, inner) => (readPath graph levels inner).map wrap
          | none =>
              match graph.objectOf? node (sh "alternativePath") with
              | some head => do
                  let members ← readCollection graph head
                  let parts ← members.mapM (readPath graph levels)
                  .ok (.alternative parts)
              | none =>
                  if (graph.objectOf? node (rdf "first")).isSome then do
                    let members ← readCollection graph node
                    let parts ← members.mapM (readPath graph levels)
                    if parts.length < 2 then .error (.shortSequence node)
                    else .ok (.sequence parts)
                  else .error (.unsupportedPath node)

def parsePath (graph : Graph) (node : Term) : Except Fault Path :=
  readPath graph (maxPathDepth + 1) node

/-! ## Targets -/

def readTargets (graph : Graph) (id : Term) : Except Fault (List Target) := do
  let classes ← (graph.objectsOf id (sh "targetClass")).mapM fun found =>
    (expectIri id "sh:targetClass" found).map Target.instancesOf
  let nodes := (graph.objectsOf id (sh "targetNode")).map Target.node
  let subjects ← (graph.objectsOf id (sh "targetSubjectsOf")).mapM fun found =>
    (expectIri id "sh:targetSubjectsOf" found).map Target.subjectsOf
  let objects ← (graph.objectsOf id (sh "targetObjectsOf")).mapM fun found =>
    (expectIri id "sh:targetObjectsOf" found).map Target.objectsOf
  let implicit :=
    match id with
    | .iri iri =>
        if hasType graph id (rdfs "Class") &&
            (hasType graph id (sh "NodeShape") || hasType graph id (sh "PropertyShape")) then
          [.instancesOf iri]
        else []
    | _ => []
  .ok (classes ++ nodes ++ subjects ++ objects ++ implicit)

/-! ## Constraints -/

def forEach (graph : Graph) (id : Term) (property : String)
    (make : Term → Except Fault Constraint) : Except Fault (List Constraint) :=
  (graph.objectsOf id (sh property)).mapM make

/-- A constraint for the first object of a property, if there is one. -/
def forFirst (graph : Graph) (id : Term) (property : String)
    (make : Term → Except Fault Constraint) : Except Fault (List Constraint) :=
  match graph.objectOf? id (sh property) with
  | some found => (make found).map ([·])
  | none => .ok []

/-- A constraint for each predicate that a property names. -/
def forPredicates (graph : Graph) (id : Term) (property : String) (make : Iri → Constraint) :
    Except Fault (List Constraint) :=
  forEach graph id property fun found => (expectIri id ("sh:" ++ property) found).map make

def forCount (graph : Graph) (id : Term) (property : String) (make : Nat → Constraint) :
    Except Fault (List Constraint) :=
  forFirst graph id property fun found => (expectCount id ("sh:" ++ property) found).map make

def forBound (graph : Graph) (id : Term) (property : String) (make : Literal → Constraint) :
    Except Fault (List Constraint) :=
  forFirst graph id property fun found => (expectLiteral id ("sh:" ++ property) found).map make

/-- One constraint for every collection of shapes that a property has. -/
def forShapeLists (graph : Graph) (id : Term) (property : String)
    (make : List Term → Constraint) : Except Fault (List Constraint) :=
  forEach graph id property fun head => (readCollection graph head).map make

/-- Comparisons with another property. Only those on equality apply to node shapes. -/
def readPropertyPairs (graph : Graph) (id : Term) (isProperty : Bool) :
    Except Fault (List Constraint) := do
  let equals ← forPredicates graph id "equals" .equals
  let disjoint ← forPredicates graph id "disjoint" .disjoint
  if isProperty then
    let lessThan ← forPredicates graph id "lessThan" .lessThan
    let lessThanOrEquals ← forPredicates graph id "lessThanOrEquals" .lessThanOrEquals
    .ok (equals ++ disjoint ++ lessThan ++ lessThanOrEquals)
  else .ok (equals ++ disjoint)

/-- Bounds on the number of values, and unique languages. -/
def readCardinality (graph : Graph) (id : Term) : Except Fault (List Constraint) := do
  let least ← forCount graph id "minCount" .minCount
  let most ← forCount graph id "maxCount" .maxCount
  let unique := if isTrue graph id "uniqueLang" then [Constraint.uniqueLanguage] else []
  .ok (least ++ most ++ unique)

def readPattern (graph : Graph) (id : Term) : Except Fault (List Constraint) :=
  match literalText? graph id "pattern" with
  | none => .ok []
  | some source =>
      let flags := literalText? graph id "flags"
      match Pattern.parse? (Pattern.Flags.ofLetters (flags.getD "")) source with
      | some pattern => .ok [.pattern source flags pattern]
      | none => .error (.invalidPattern id source)

def readNodeKind (graph : Graph) (id : Term) : Except Fault (List Constraint) :=
  forFirst graph id "nodeKind" fun found => do
    let iri ← expectIri id "sh:nodeKind" found
    match NodeKind.ofIri? iri with
    | some kind => .ok (.nodeKind kind)
    | none => .error (.unknownNodeKind id iri)

def readClosed (graph : Graph) (id : Term) : Except Fault (List Constraint) := do
  if isTrue graph id "closed" then
    let ignored ←
      match graph.objectOf? id (sh "ignoredProperties") with
      | some head => do
          let terms ← readCollection graph head
          terms.mapM (expectIri id "sh:ignoredProperties")
      | none => .ok []
    .ok [.closed ignored]
  else .ok []

/-- What each group of parameters says of a shape, in the order in which it is checked. -/
def constraintGroups (graph : Graph) (id : Term) (isProperty : Bool) :
    List (Except Fault (List Constraint)) :=
  [ forPredicates graph id "class" .instanceOf,
    forFirst graph id "datatype" fun found => (expectIri id "sh:datatype" found).map .datatype,
    readNodeKind graph id,
    if isProperty then readCardinality graph id else .ok [],
    readPropertyPairs graph id isProperty,
    forBound graph id "minInclusive" .minInclusive,
    forBound graph id "maxInclusive" .maxInclusive,
    forBound graph id "minExclusive" .minExclusive,
    forBound graph id "maxExclusive" .maxExclusive,
    forCount graph id "minLength" .minLength,
    forCount graph id "maxLength" .maxLength,
    readPattern graph id,
    forFirst graph id "languageIn" fun head =>
      (readCollection graph head).map fun terms => .languageIn (terms.filterMap Term.lexical?),
    forFirst graph id "in" fun head => (readCollection graph head).map .among,
    .ok ((graph.objectsOf id (sh "hasValue")).map .hasValue),
    .ok ((graph.objectsOf id (sh "node")).map .node),
    .ok ((graph.objectsOf id (sh "not")).map .not),
    forShapeLists graph id "and" .and,
    forShapeLists graph id "or" .or,
    forShapeLists graph id "xone" .exactlyOne,
    if isProperty then .ok [] else readClosed graph id ]

/-- All constraints of a shape. The first group that cannot be read is the fault. -/
def readConstraints (graph : Graph) (id : Term) (isProperty : Bool) :
    Except Fault (List Constraint) :=
  ((constraintGroups graph id isProperty).mapM fun group => group).map List.flatten

/-! ## Shapes -/

def readSeverity (graph : Graph) (id : Term) : Severity :=
  let severity := graph.objectOf? id (sh "severity")
  if severity = some (.iri (sh "Warning")) then .warning
  else if severity = some (.iri (sh "Info")) then .info
  else .violation

/-- Reads what a shape has beside its targets and its path. -/
def readRest (graph : Graph) (id : Term) (targets : List Target) (path : Option Path) :
    Except Fault Shape := do
  let constraints ← readConstraints graph id path.isSome
  .ok
    { id, targets, path, constraints
      properties := (graph.objectsOf id (sh "property")).filter fun term => !term.isLiteral
      severity := readSeverity graph id
      message := literalText? graph id "message"
      name := literalText? graph id "name"
      deactivated := isTrue graph id "deactivated" }

def ofNode (graph : Graph) (id : Term) : Except Fault Shape := do
  let targets ← readTargets graph id
  match graph.objectOf? id (sh "path") with
  | some node => do
      let path ← parsePath graph node
      readRest graph id targets (some path)
  | none => readRest graph id targets none

/-- The nodes that are shapes by themselves: typed ones, then those with a target or a path. -/
def seeds (graph : Graph) : List Term :=
  let typed := [sh "NodeShape", sh "PropertyShape"].flatMap fun type =>
    (graph.subjects (rdf "type") (.iri type)).map Rdf.Subject.toTerm
  let marked :=
    ["targetClass", "targetNode", "targetSubjectsOf", "targetObjectsOf", "path"].flatMap fun name =>
      (graph.withPredicate (sh name)).map fun triple => triple.subject.toTerm
  (typed ++ marked).eraseDups

/-- Reads the shapes of the queue and of all nodes that they refer to, each once. Each shape takes
one of `fuel`. -/
def readQueue (graph : Graph) :
    Nat → List Term → List Term → List Shape → Except Fault (List Shape)
  | _, _, [], shapes => .ok shapes.reverse
  | 0, _, _ :: _, shapes => .ok shapes.reverse
  | fuel + 1, seen, id :: queue, shapes => do
      let shape ← ofNode graph id
      let fresh := (shape.references.filter fun term => !seen.contains term).eraseDups
      readQueue graph fuel (seen ++ fresh) (queue ++ fresh) (shape :: shapes)

end RdfPipeline.Shape

namespace RdfPipeline.ShapesGraph

open Rdf (Graph Term)

def sortByText (terms : List Term) : List Term :=
  terms.mergeSort fun left right => !(right.toText < left.toText)

/-- The shapes that a graph describes. Every node with a role in them is a subject or an object of
the graph. -/
def ofGraph (graph : Graph) : Except Shape.Fault ShapesGraph := do
  let seeds := Shape.seeds graph
  let shapes ← Shape.readQueue graph (2 * graph.size + 1) seeds seeds []
  let targeted := (shapes.filter Shape.hasTargets).map (·.id)
  .ok ⟨shapes, sortByText targeted⟩

/-- The shapes of a Turtle document, and the supply of fresh blank nodes that is left. -/
def parse (supply : Nat) (text : String) : Except EngineError (ShapesGraph × Nat) :=
  match Rdf.Turtle.parse? supply text with
  | none => .error (.shapes TextFormat.turtle.complaint)
  | some (graph, supply) =>
      match ofGraph graph with
      | .ok shapes => .ok (shapes, supply)
      | .error fault => .error (.shapes fault.message)

end RdfPipeline.ShapesGraph
