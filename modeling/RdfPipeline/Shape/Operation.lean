import RdfPipeline.Config
import RdfPipeline.Operation.Basic
import RdfPipeline.Shape.Compile
import RdfPipeline.Shape.Report

/-!
# Validation as an operation

The input graph is checked against shapes and handed on unchanged. A policy says what becomes of a
graph that does not conform.
-/

set_option autoImplicit false

namespace RdfPipeline.Shape

def operationId : String := "shacl-validation"

/-- The text of the shapes, from a file or a parameter, if either is given. -/
def readShapesText (context : OperationContext) : Activity (Option String) := do
  match context.nonBlankText? "shapesFile" with
  | some path =>
      match (← Activity.host).files.readText path with
      | .ok text => return some text
      | .error fault =>
          throw (.ofOperation operationId
            ("Cannot read shapes file '" ++ path ++ "': " ++ fault.message))
  | none => return context.nonBlankText? "shapesContent"

/-- The policy of a step, or the configured one. -/
def parsePolicy (default : ViolationPolicy) (context : OperationContext) :
    Except EngineError ViolationPolicy :=
  match context.nonBlankText? "onViolation" with
  | some name => (ViolationPolicy.parse name).mapError (.ofOperation operationId)
  | none => .ok default

def requireGraph (context : OperationContext) : Except EngineError Rdf.SharedGraph :=
  match context.inputGraph with
  | some graph => .ok graph
  | none => .error (.ofOperation operationId "No input graph provided")

/-- Compiles shapes; errors become errors of this operation. -/
def parseShapes (text : String) (supply : Nat) : Except EngineError (ShapesGraph × Nat) :=
  (ShapesGraph.parse supply text).mapError fun error => .ofOperation operationId error.message

/-! ## Results -/

def Result.toValue (result : Result) : Value :=
  .map (Dict.ofList
    ([ ("severity", .text result.severity.toText),
        ("focusNode", .text result.focusNode.readable) ] ++
      (result.path.map fun path => ("resultPath", Value.text path.toText)).toList ++
      (result.value.map fun value => ("value", Value.text value.readable)).toList ++
      [ ("message", .text result.message),
        ("sourceConstraintComponent", .text result.component.text),
        ("sourceShape", .text result.shape.readable) ]))

/-- Adds the verdict, the counts and all results to the metadata. -/
def withReport (report : Report) (result : OperationResult) : OperationResult :=
  ((((result.withMetadata "conforms" (.bool report.conforms)).withMetadata
    "violationCount" (.ofCount (report.count .violation))).withMetadata
    "warningCount" (.ofCount (report.count .warning))).withMetadata
    "infoCount" (.ofCount (report.count .info))).withMetadata
    "results" (.list (report.results.map Result.toValue))

def conformingText (report : Report) : String :=
  "Graph conforms (" ++ toString (report.count .warning) ++ " warnings, " ++
    toString (report.count .info) ++ " info)"

/-- What is said of a graph that does not: the number of violations and the first of them. -/
def violationText (report : Report) : String :=
  "Validation failed with " ++ toString (report.count .violation) ++ " violation(s)" ++
    (match (report.withSeverity .violation).head? with
      | some result => ": " ++ result.toText
      | none => "")

def policyLevel : ViolationPolicy → LogLevel
  | .fail => .error
  | .warn => .warn
  | .proceed => .info

/-- The result for a graph that does not conform, before the report is added. -/
def violationResult (policy : ViolationPolicy) (graph : Rdf.SharedGraph) (text : String) :
    OperationResult :=
  match policy with
  | .fail => .failed text
  | .warn | .proceed => .ofGraph graph

/-- Logs the verdict and returns the result that the policy asks for. -/
def judge (policy : ViolationPolicy) (graph : Rdf.SharedGraph) (report : Report) :
    Activity OperationResult := do
  if report.conforms then
    Activity.log .info (conformingText report)
    return withReport report (.ofGraph graph)
  else
    Activity.log (policyLevel policy) (violationText report)
    return withReport report (violationResult policy graph (violationText report))

/-! ## The operation -/

def passThrough (context : OperationContext) : Activity OperationResult := do
  Activity.log .info "No shapes supplied, validation skipped"
  return { OperationResult.succeeded with outputGraph := context.inputGraph }.withMetadata
    "skipped" (.bool true)

def execute (config : Config) (context : OperationContext) : Activity OperationResult := do
  match ← readShapesText context with
  | none => passThrough context
  | some text =>
      let policy ← liftExcept (parsePolicy config.onViolation context)
      let graph ← liftExcept (requireGraph context)
      let shapes ← Activity.withFreshNodes (parseShapes text)
      let report := validate shapes config.maxShapeDepth graph.graph
      Activity.countMetric "violations" (report.count .violation)
      Activity.countMetric "warnings" (report.count .warning)
      judge policy graph report

def operation (config : Config) : Operation where
  id := operationId
  name := "SHACL Validation"
  description := "Validates the input graph against SHACL shapes"
  type := .validation
  parameters :=
    [ .optional "shapesFile" .string "Path of a Turtle shapes graph",
      .optional "shapesContent" .string "Inline Turtle shapes graph",
      .optional "onViolation" .string "error, warn or continue" ]
  execute := execute config

end RdfPipeline.Shape
