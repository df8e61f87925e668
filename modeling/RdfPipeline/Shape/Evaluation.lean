import RdfPipeline.Rdf.Comparison
import RdfPipeline.Shape.Basic

/-!
# Checking shapes

The focus nodes of a shape, the findings of each constraint, and the results of a shape with all the
shapes that it refers to. References are followed to a bounded depth; beyond it every node conforms.
-/

set_option autoImplicit false

namespace RdfPipeline.Shape

open Rdf (Graph Iri Literal Term rdf)

/-- One failure of a constraint, without what all failures of its shape have in common. -/
structure Finding where
  value : Option Term
  message : String
  /-- The path to report in place of the path of the shape. -/
  path : Option Path

structure Result where
  severity : Severity
  focusNode : Term
  path : Option Path
  value : Option Term
  message : String
  component : Iri
  shape : Term

/-! ## Classes -/

def subclasses (graph : Graph) (iri : Iri) : List Term :=
  Rdf.reachable graph
    (fun classes => classes.flatMap fun superclass =>
      (graph.subjects (rdfs "subClassOf") superclass).map Rdf.Subject.toTerm)
    [.iri iri]

/-- The instances of a class or one of its subclasses. -/
def instancesOf (graph : Graph) (iri : Iri) : List Term :=
  (subclasses graph iri).flatMap fun type =>
    (graph.subjects (rdf "type") type).map Rdf.Subject.toTerm

/-- Whether one of the types of a term is the class or has it among its superclasses. -/
def isInstanceOf (graph : Graph) (term : Term) (iri : Iri) : Bool :=
  (Rdf.reachable graph
    (fun classes => classes.flatMap fun subclass => graph.objectsOf subclass (rdfs "subClassOf"))
    (graph.objectsOf term (rdf "type"))).contains (.iri iri)

/-! ## Focus nodes -/

def Target.nodes (graph : Graph) : Target → List Term
  | .instancesOf iri => Shape.instancesOf graph iri
  | .node term => [term]
  | .subjectsOf predicate => (graph.withPredicate predicate).map (·.subject.toTerm)
  | .objectsOf predicate => (graph.withPredicate predicate).map (·.object)

/-- The nodes that some target selects, each once, in the order of their texts. -/
def focusNodes (graph : Graph) (shape : Shape) : List Term :=
  (shape.targets.flatMap (Target.nodes graph)).eraseDups.mergeSort fun left right =>
    !(right.toText < left.toText)

/-! ## Constraints -/

/-- The text that lengths and patterns look at; blank nodes have none. -/
def stringForm? : Term → Option String
  | .iri iri => some iri.text
  | .blank _ => none
  | .literal literal => some literal.lexical

/-- Whether a tag is the range or an extension of it, in any case; `*` is the range of all tags. -/
def languageMatches (tag range : String) : Bool :=
  let tag := Text.lowerAscii tag
  let lower := Text.lowerAscii range
  range == "*" || tag == lower || tag.startsWith (lower ++ "-")

def languageOf? : Term → Option String
  | .literal literal => literal.language?
  | _ => none

/-- The languages used more than once, in ascending order. -/
def repeatedLanguages (values : List Term) : List String :=
  let tags := (values.filterMap languageOf?).map Text.lowerAscii
  (tags.eraseDups.filter fun tag => 1 < tags.count tag).mergeSort fun left right =>
    !(right < left)

/-- A finding for each value that fails the check. -/
def forValues (values : List Term) (passes : Term → Bool) (message : String) : List Finding :=
  (values.filter fun value => !passes value).map fun value => ⟨some value, message, none⟩

/-- A finding without a value unless the condition holds. -/
def unlessHolds (condition : Bool) (message : String) : List Finding :=
  if condition then [] else [⟨none, message, none⟩]

/-- Values whose order against the bound is accepted pass. -/
def checkRange (values : List Term) (bound : Literal) (relation : String)
    (accepts : Ordering → Bool) : List Finding :=
  forValues values
    (fun value => ((value.compare? (.literal bound)).map accepts).getD false)
    ("Value is not " ++ relation ++ " " ++ bound.lexical)

/-- A check of the length of each value, which blank nodes fail. -/
def checkLength (values : List Term) (accepts : Nat → Bool) (message : String) : List Finding :=
  values.flatMap fun value =>
    match stringForm? value with
    | some text =>
        if accepts text.toList.length then [] else [⟨some value, message, none⟩]
    | none => [⟨some value, "Blank node has no string representation", none⟩]

def checkDatatype (values : List Term) (datatype : Iri) : List Finding :=
  values.flatMap fun value =>
    match value with
    | .literal literal =>
        if literal.datatype = datatype then
          if literal.isWellFormed then []
          else
            [⟨some value, "Value '" ++ literal.lexical ++ "' is not a valid lexical form of " ++
              datatype.toText, none⟩]
        else [⟨some value, "Value does not have datatype " ++ datatype.toText, none⟩]
    | _ => [⟨some value, "Value does not have datatype " ++ datatype.toText, none⟩]

/-- Values that the other property lacks, then values that only the other property has. -/
def checkEquals (values others : List Term) (predicate : Iri) : List Finding :=
  forValues values others.contains ("Value is not a value of " ++ predicate.toText) ++
    forValues others values.contains ("Value of " ++ predicate.toText ++ " is missing")

/-- The predicates that a closed shape allows: the ignored ones and the plain paths of its property
shapes. -/
def allowedPredicates (shapes : ShapesGraph) (shape : Shape) (ignored : List Iri) : List Iri :=
  ignored ++ (shape.properties.filterMap shapes.get?).filterMap fun property =>
    property.path.bind Path.asPredicate?

def checkClosed (graph : Graph) (allowed : List Iri) (values : List Term) : List Finding :=
  (values.flatMap graph.outgoing).filterMap fun (predicate, object) =>
    if allowed.contains predicate then none
    else
      some ⟨some object, "Predicate " ++ predicate.toText ++ " is not allowed (closed shape)",
        some (.predicate predicate)⟩

/-- A finding for each value that conforms to no shape of the list, or to more than one. -/
def checkExactlyOne (conforms : Term → Term → Bool) (values shapes : List Term) : List Finding :=
  values.flatMap fun value =>
    let count := (shapes.filter (conforms value)).length
    if count = 1 then []
    else
      [⟨some value, "Value conforms to " ++ toString count ++
        " shapes in sh:xone, expected exactly 1", none⟩]

/-- The failures of a constraint at a focus node with its value nodes. `conforms` decides whether a
value conforms to the shape of an id. -/
def Constraint.findings (graph : Graph) (shapes : ShapesGraph) (conforms : Term → Term → Bool)
    (shape : Shape) (focus : Term) (values : List Term) : Constraint → List Finding
  | .instanceOf iri =>
      forValues values (isInstanceOf graph · iri) ("Value does not have class " ++ iri.toText)
  | .datatype iri => checkDatatype values iri
  | .nodeKind kind =>
      forValues values kind.admits ("Value does not have node kind sh:" ++ kind.name)
  | .minCount count =>
      unlessHolds (count ≤ values.length) ("Less than " ++ toString count ++ " values")
  | .maxCount count =>
      unlessHolds (values.length ≤ count) ("More than " ++ toString count ++ " values")
  | .minInclusive bound => checkRange values bound "greater than or equal to" (· != .lt)
  | .maxInclusive bound => checkRange values bound "less than or equal to" (· != .gt)
  | .minExclusive bound => checkRange values bound "greater than" (· == .gt)
  | .maxExclusive bound => checkRange values bound "less than" (· == .lt)
  | .minLength length =>
      checkLength values (length ≤ ·)
        ("Value has less than " ++ toString length ++ " characters")
  | .maxLength length =>
      checkLength values (· ≤ length)
        ("Value has more than " ++ toString length ++ " characters")
  | .pattern source _ expression =>
      forValues values
        (fun value => ((stringForm? value).map expression.isFoundIn).getD false)
        ("Value does not match pattern \"" ++ source ++ "\"")
  | .languageIn ranges =>
      forValues values
        (fun value =>
          match languageOf? value with
          | some tag => ranges.any (languageMatches tag)
          | none => false)
        ("Language tag not in [" ++ String.intercalate ", " ranges ++ "]")
  | .uniqueLanguage =>
      (repeatedLanguages values).map fun tag =>
        ⟨none, "Language \"" ++ tag ++ "\" used more than once", none⟩
  | .equals predicate => checkEquals values (graph.objectsOf focus predicate) predicate
  | .disjoint predicate =>
      forValues values (fun value => !(graph.objectsOf focus predicate).contains value)
        ("Value is also a value of " ++ predicate.toText)
  | .lessThan predicate =>
      forValues values
        (fun value => (graph.objectsOf focus predicate).all fun other =>
          value.compare? other == some .lt)
        ("Value is not less than the values of " ++ predicate.toText)
  | .lessThanOrEquals predicate =>
      forValues values
        (fun value => (graph.objectsOf focus predicate).all fun other =>
          value.compare? other == some .lt || value.compare? other == some .eq)
        ("Value is not less than or equal to the values of " ++ predicate.toText)
  | .among terms =>
      forValues values terms.contains
        ("Value is not in [" ++ String.intercalate ", " (terms.map Term.readable) ++ "]")
  | .hasValue term =>
      unlessHolds (values.contains term) ("Missing expected value " ++ term.toText)
  | .node id =>
      forValues values (conforms · id) ("Value does not conform to shape " ++ id.toText)
  | .not id => forValues values (fun value => !conforms value id)
      ("Value conforms to shape " ++ id.toText)
  | .and ids =>
      forValues values (fun value => ids.all (conforms value))
        "Value does not conform to every shape in sh:and"
  | .or ids =>
      forValues values (fun value => ids.any (conforms value))
        "Value does not conform to any shape in sh:or"
  | .exactlyOne ids => checkExactlyOne conforms values ids
  | .closed ignored => checkClosed graph (allowedPredicates shapes shape ignored) values

/-! ## Shapes -/

/-- The nodes that the constraints of a shape look at. -/
def valueNodes (graph : Graph) (shape : Shape) (focus : Term) : List Term :=
  match shape.path with
  | some path => path.values graph focus
  | none => [focus]

/-- A finding with what the shape and the constraint say. -/
def toResult (shape : Shape) (focus : Term) (constraint : Constraint) (finding : Finding) :
    Result where
  severity := shape.severity
  focusNode := focus
  path := finding.path <|> shape.path
  value := finding.value
  message := shape.message.getD finding.message
  component := constraint.component
  shape := shape.id

/-- The results of the shape's own constraints at one focus node. -/
def ownResults (graph : Graph) (shapes : ShapesGraph) (conforms : Term → Term → Bool)
    (shape : Shape) (focus : Term) (values : List Term) : List Result :=
  shape.constraints.flatMap fun constraint =>
    (constraint.findings graph shapes conforms shape focus values).map
      (toResult shape focus constraint)

/-- The results of a shape at its focus nodes. Shapes that it refers to are checked as long as
`levels` are left: its property shapes at its value nodes, and the others for conformance. -/
def check (graph : Graph) (shapes : ShapesGraph) : Nat → Shape → List Term → List Result
  | 0, shape, focusNodes =>
      if shape.deactivated then []
      else
        focusNodes.flatMap fun focus =>
          ownResults graph shapes (fun _ _ => true) shape focus (valueNodes graph shape focus)
  | levels + 1, shape, focusNodes =>
      if shape.deactivated then []
      else
        let conforms (value id : Term) : Bool :=
          match shapes.get? id with
          | some referenced => (check graph shapes levels referenced [value]).isEmpty
          | none => true
        focusNodes.flatMap fun focus =>
          let values := valueNodes graph shape focus
          ownResults graph shapes conforms shape focus values ++
            (shape.properties.filterMap shapes.get?).flatMap fun property =>
              check graph shapes levels property values

/-- Whether a node conforms to the shape of an id with `levels` levels of references left. Unknown
shapes, and those out of reach, have no demands. -/
def conforms (graph : Graph) (shapes : ShapesGraph) (levels : Nat) (node id : Term) : Bool :=
  match levels, shapes.get? id with
  | levels + 1, some shape => (check graph shapes levels shape [node]).isEmpty
  | _, _ => true

end RdfPipeline.Shape
