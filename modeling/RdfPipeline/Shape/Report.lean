import RdfPipeline.Shape.Evaluation

/-!
# Validation reports

The results of checking all shapes with targets, their counts, their texts and the graph that
describes them.
-/

set_option autoImplicit false

namespace RdfPipeline.Shape

open Rdf (BlankNode Graph Iri Literal Subject Term Triple rdf)

structure Report where
  results : List Result

namespace Report

def withSeverity (report : Report) (severity : Severity) : List Result :=
  report.results.filter (·.severity = severity)

def count (report : Report) (severity : Severity) : Nat :=
  (report.withSeverity severity).length

/-- Only violations count against conformance. -/
def conforms (report : Report) : Bool :=
  report.count .violation == 0

end Report

/-! ## Texts -/

/-- Severity, focus node and path, then the message. -/
def Result.toText (result : Result) : String :=
  "[" ++ result.severity.toText ++ "] " ++ result.focusNode.toText ++
    (match result.path with
      | some path => " " ++ path.toText
      | none => "") ++
    ": " ++ result.message

namespace Report

def summary (report : Report) : String :=
  "conforms=" ++ (if report.conforms then "true" else "false") ++
    " violations=" ++ toString (report.count .violation) ++
    " warnings=" ++ toString (report.count .warning) ++
    " info=" ++ toString (report.count .info)

/-- The summary and one indented line for each result. -/
def toText (report : Report) : String :=
  report.summary ++ "\n" ++
    String.join (report.results.map fun result => "  " ++ result.toText ++ "\n")

end Report

/-! ## Graphs -/

/-- A plain predicate as itself, any other path as its text. -/
def Path.toObject (path : Path) : Term :=
  match path.asPredicate? with
  | some iri => .iri iri
  | none => .literal (.plain path.toText)

def optionalTriple (subject : Subject) (predicate : Iri) : Option Term → List Triple
  | some object => [⟨subject, predicate, object⟩]
  | none => []

/-- The triples about one result, whose node is given. -/
def Result.triples (result : Result) (node : Subject) : List Triple :=
  [ ⟨node, rdf "type", .iri (sh "ValidationResult")⟩,
    ⟨node, sh "resultSeverity", .iri result.severity.iri⟩,
    ⟨node, sh "focusNode", result.focusNode⟩ ] ++
  optionalTriple node (sh "resultPath") (result.path.map Path.toObject) ++
  optionalTriple node (sh "value") result.value ++
  [ ⟨node, sh "resultMessage", .literal (.plain result.message)⟩,
    ⟨node, sh "sourceConstraintComponent", .iri result.component⟩,
    ⟨node, sh "sourceShape", result.shape⟩ ]

/-- The triples of results with consecutive fresh nodes, each linked from the report. -/
def resultTriples (report : Subject) : Nat → List Result → List Triple
  | _, [] => []
  | supply, result :: rest =>
      let node := BlankNode.fresh supply
      ⟨report, sh "result", .blank node⟩ :: result.triples (.blank node) ++
        resultTriples report (supply + 1) rest

namespace Report

/-- The report as a graph whose nodes are fresh from `supply` on, and the supply that is left. -/
def toGraph (report : Report) (supply : Nat) : Graph × Nat :=
  let node : Subject := .blank (.fresh supply)
  (Graph.ofList
    (⟨node, rdf "type", .iri (sh "ValidationReport")⟩ ::
      ⟨node, sh "conforms", .literal (.ofBool report.conforms)⟩ ::
      resultTriples node (supply + 1) report.results),
    supply + 1 + report.results.length)

end Report

/-! ## Validation -/

/-- Checks every shape with targets at its focus nodes. -/
def validate (shapes : ShapesGraph) (maxDepth : Nat) (graph : Graph) : Report :=
  ⟨shapes.targetedShapes.flatMap fun shape =>
    check graph shapes maxDepth shape (focusNodes graph shape)⟩

end RdfPipeline.Shape
