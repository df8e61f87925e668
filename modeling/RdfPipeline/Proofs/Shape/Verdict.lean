import RdfPipeline.Proofs.Dict
import RdfPipeline.Proofs.Operation.FileIndependence

/-!
# The verdict of a validation step

A step that finds shapes and a graph to check reports what checking gives, and hands the graph on
or not. Its policy has a say in the second only.
-/

set_option autoImplicit false

namespace RdfPipeline.Shape

open Activity (bind_of_ok)

/-! ## Verdicts -/

/-- What becomes of a graph under a policy, before the report is added. -/
def disposal (policy : ViolationPolicy) (graph : Rdf.SharedGraph) (report : Report) :
    OperationResult :=
  if report.conforms then .ofGraph graph else violationResult policy graph (violationText report)

/-- The result for a graph under a policy. -/
def judgement (policy : ViolationPolicy) (graph : Rdf.SharedGraph) (report : Report) :
    OperationResult :=
  withReport report (disposal policy graph report)

theorem disposal_cases (policy : ViolationPolicy) (graph : Rdf.SharedGraph) (report : Report) :
    ((policy = .fail ∧ report.conforms = false) ∧
      disposal policy graph report = .failed (violationText report)) ∨
    (¬(policy = .fail ∧ report.conforms = false) ∧
      disposal policy graph report = .ofGraph graph) := by
  unfold disposal
  cases report.conforms
  · cases policy <;> simp [violationResult]
  · simp

theorem Report.conforms_eq_false_iff {report : Report} :
    report.conforms = false ↔ ∃ result ∈ report.results, result.severity = .violation := by
  simp [conforms, count, withSeverity, List.length_eq_zero_iff]

/-- The verdict, the counts and all results of a report. -/
structure Records (report : Report) (metadata : Dict Value) : Prop where
  conforms : Dict.get? "conforms" metadata = some (.bool report.conforms)
  violationCount : Dict.get? "violationCount" metadata = some (.ofCount (report.count .violation))
  warningCount : Dict.get? "warningCount" metadata = some (.ofCount (report.count .warning))
  infoCount : Dict.get? "infoCount" metadata = some (.ofCount (report.count .info))
  results : Dict.get? "results" metadata = some (.list (report.results.map Result.toValue))

theorem records_withReport (report : Report) (result : OperationResult) :
    Records report (withReport report result).metadata := by
  constructor <;> simp [withReport, OperationResult.withMetadata, Dict.get?_insert]

/-- A result that records the report and hands on the graph itself, unless the policy has it
fail. -/
structure Judged (policy : ViolationPolicy) (graph : Rdf.SharedGraph) (report : Report)
    (result : OperationResult) : Prop where
  records : Records report result.metadata
  failure : result.success = false ↔
    policy = .fail ∧ ∃ found ∈ report.results, found.severity = .violation
  graphOfSuccess : result.success = true → result.outputGraph = some graph
  graphOfFailure : result.success = false → result.outputGraph = none

theorem judged_judgement (policy : ViolationPolicy) (graph : Rdf.SharedGraph) (report : Report) :
    Judged policy graph report (judgement policy graph report) := by
  have violated : policy = .fail ∧ report.conforms = false ↔
      policy = .fail ∧ ∃ found ∈ report.results, found.severity = .violation :=
    and_congr_right fun _ => Report.conforms_eq_false_iff
  rcases disposal_cases policy graph report with ⟨fails, disposed⟩ | ⟨succeeds, disposed⟩
  · rw [judgement, disposed]
    exact
      { records := records_withReport report _
        failure := (iff_of_true rfl fails).trans violated
        graphOfSuccess := nofun
        graphOfFailure := fun _ => rfl }
  · rw [judgement, disposed]
    exact
      { records := records_withReport report _
        failure := (iff_of_false nofun succeeds).trans violated
        graphOfSuccess := fun _ => rfl
        graphOfFailure := nofun }

theorem judgement_metadata (policy policy' : ViolationPolicy) (graph : Rdf.SharedGraph)
    (report : Report) :
    (judgement policy graph report).metadata = (judgement policy' graph report).metadata := by
  have fresh : ∀ policy, (disposal policy graph report).metadata = [] := by
    intro policy
    rcases disposal_cases policy graph report with ⟨-, disposed⟩ | ⟨-, disposed⟩
    · rw [disposed]
      rfl
    · rw [disposed]
      rfl
  simp only [judgement, withReport, OperationResult.withMetadata, fresh]

theorem judge_eq (policy : ViolationPolicy) (graph : Rdf.SharedGraph) (report : Report)
    (session : Session) :
    ∃ level message, judge policy graph report session =
      (.ok (judgement policy graph report),
        { session with notices := session.notices ++ [.log level message] }) := by
  unfold judge judgement disposal
  cases report.conforms
  · exact ⟨_, _, rfl⟩
  · exact ⟨_, _, rfl⟩

/-! ## Steps -/

/-- The text of the shapes of a step: from the file that it names, or given inline if it names
none. -/
inductive Supplies (context : OperationContext) (files : Files) : String → Prop where
  | file {path text : String} : context.nonBlankText? "shapesFile" = some path →
      files.readText path = .ok text → Supplies context files text
  | inline {text : String} : context.nonBlankText? "shapesFile" = none →
      context.nonBlankText? "shapesContent" = some text → Supplies context files text

theorem Supplies.readShapesText_eq {context : OperationContext} {session : Session} {text : String}
    (supplies : Supplies context session.host.files text) :
    readShapesText context session = (.ok (some text), session) := by
  unfold readShapesText
  cases supplies with
  | @file path text named readable =>
      rw [named]
      refine (bind_of_ok rfl _).trans ?_
      rw [readable]
      rfl
  | inline unnamed given =>
      rw [unnamed, given]
      rfl

/-- What the step tells beside its result: the two counts, and the verdict at some level. -/
def Tells (report : Report) (before after : Session) : Prop :=
  ∃ level message, after.notices = before.notices ++
    [ .metric "violations" (Binary64.ofInt (report.count .violation)),
      .metric "warnings" (Binary64.ofInt (report.count .warning)), .log level message ]

theorem execute_eq_judgement {config : Config} {context : OperationContext} {session : Session}
    {text : String} {shapes : ShapesGraph} {supply : Nat} {policy : ViolationPolicy}
    {graph : Rdf.SharedGraph} (supplies : Supplies context session.host.files text)
    (parsed : ShapesGraph.parse session.host.freshNodes text = .ok (shapes, supply))
    (given : context.inputGraph = some graph)
    (decided : parsePolicy config.onViolation context = .ok policy) :
    ∃ after, Tells (validate shapes config.maxShapeDepth graph.graph) session after ∧
      execute config context session =
        (.ok (judgement policy graph (validate shapes config.maxShapeDepth graph.graph)),
          after) := by
  let report := validate shapes config.maxShapeDepth graph.graph
  have policyAt : (liftExcept (parsePolicy config.onViolation context) : Activity _) session =
      (.ok policy, session) := by
    rw [decided]
    rfl
  have graphAt : (liftExcept (requireGraph context) : Activity _) session =
      (.ok graph, session) := by
    rw [requireGraph, given]
    rfl
  have shapesAt : Activity.withFreshNodes (parseShapes text) session =
      (.ok shapes, { session with host := { session.host with freshNodes := supply } }) := by
    rw [Activity.withFreshNodes, parseShapes, parsed]
    rfl
  let counted : Session :=
    ⟨{ session.host with freshNodes := supply }, session.notices ++
      [.metric "violations" (Binary64.ofInt (report.count .violation)),
        .metric "warnings" (Binary64.ofInt (report.count .warning))]⟩
  obtain ⟨level, message, judged⟩ := judge_eq policy graph report counted
  refine ⟨{ counted with notices := counted.notices ++ [.log level message] },
    ⟨level, message, ?_⟩, ?_⟩
  · exact List.append_assoc _ _ _
  · rw [execute, bind_of_ok supplies.readShapesText_eq]
    dsimp only
    rw [bind_of_ok policyAt, bind_of_ok graphAt, bind_of_ok shapesAt]
    refine (bind_of_ok rfl _).trans ((bind_of_ok rfl _).trans ?_)
    rw [← judged]
    simp only [List.append_assoc, counted]
    rfl

/-- Steps that get the same graph and the same shapes, whatever their policies are. -/
structure SameButPolicy (config config' : Config) (context context' : OperationContext) : Prop where
  maxShapeDepth : config.maxShapeDepth = config'.maxShapeDepth
  shapesFile : context.nonBlankText? "shapesFile" = context'.nonBlankText? "shapesFile"
  shapesContent : context.nonBlankText? "shapesContent" = context'.nonBlankText? "shapesContent"
  inputGraph : context.inputGraph = context'.inputGraph

theorem Supplies.of_same {context context' : OperationContext} {files : Files} {text : String}
    (supplies : Supplies context files text)
    (sameFile : context.nonBlankText? "shapesFile" = context'.nonBlankText? "shapesFile")
    (sameContent :
      context.nonBlankText? "shapesContent" = context'.nonBlankText? "shapesContent") :
    Supplies context' files text := by
  cases supplies with
  | file named readable => exact .file (sameFile ▸ named) readable
  | inline unnamed given => exact .inline (sameFile ▸ unnamed) (sameContent ▸ given)

/-- Under any two policies a step records the same report, which is what checking gives, and tells
the same counts. It fails if the graph has a violation and the policy wants failure, and hands the
graph on otherwise. Without shapes it succeeds with what it was given, whatever else that is. -/
theorem execute_verdict :
    (∀ (config config' : Config) (context context' : OperationContext) (session : Session)
      (text : String) (shapes : ShapesGraph) (supply : Nat) (policy policy' : ViolationPolicy)
      (graph : Rdf.SharedGraph),
      SameButPolicy config config' context context' →
      Supplies context session.host.files text →
      ShapesGraph.parse session.host.freshNodes text = .ok (shapes, supply) →
      context.inputGraph = some graph →
      parsePolicy config.onViolation context = .ok policy →
      parsePolicy config'.onViolation context' = .ok policy' →
      let report := validate shapes config.maxShapeDepth graph.graph
      ∃ result result' after after',
        execute config context session = (.ok result, after) ∧
        execute config' context' session = (.ok result', after') ∧
        result.metadata = result'.metadata ∧
        Judged policy graph report result ∧ Judged policy' graph report result' ∧
        Tells report session after ∧ Tells report session after') ∧
    ∀ (config : Config) (context : OperationContext) (session : Session),
      context.nonBlankText? "shapesFile" = none →
      context.nonBlankText? "shapesContent" = none →
      ∃ result after, execute config context session = (.ok result, after) ∧
        result.success = true ∧ result.outputGraph = context.inputGraph ∧
        Dict.get? "skipped" result.metadata = some (.bool true) := by
  refine ⟨?checked, ?skipped⟩
  case checked =>
    intro config config' context context' session text shapes supply policy policy' graph same
      supplies parsed given decided decided' report
    have supplies' := supplies.of_same same.shapesFile same.shapesContent
    obtain ⟨after, tells, ran⟩ := execute_eq_judgement supplies parsed given decided
    obtain ⟨after', tells', ran'⟩ :=
      execute_eq_judgement supplies' parsed (same.inputGraph ▸ given) decided'
    rw [← same.maxShapeDepth] at tells' ran'
    exact ⟨_, _, after, after', ran, ran', judgement_metadata policy policy' graph report,
      judged_judgement policy graph report, judged_judgement policy' graph report, tells, tells'⟩
  case skipped =>
    intro config context session noFile noContent
    have without : readShapesText context session = (.ok none, session) := by
      rw [readShapesText, noFile, noContent]
      rfl
    refine ⟨{ OperationResult.succeeded with outputGraph := context.inputGraph }.withMetadata
        "skipped" (.bool true),
      { session with notices :=
          session.notices ++ [.log .info "No shapes supplied, validation skipped"] },
      ?_, rfl, rfl, rfl⟩
    rw [execute, bind_of_ok without]
    rfl

/-- Alice is a person, in the shapes. -/
def personShapes : String :=
  "<ex:Person> <http://www.w3.org/ns/shacl#targetNode> <ex:alice> ; " ++
    "<http://www.w3.org/ns/shacl#class> <ex:Person> ."

theorem execute_verdict_person :
    let strict : OperationContext :=
      { OperationContext.ofParameters [("shapesContent", .text personShapes)] with
        inputGraph := some ⟨7, Rdf.Graph.empty⟩ }
    let lenient : OperationContext :=
      { OperationContext.ofParameters
          [("onViolation", .text " Warn"), ("shapesContent", .text personShapes)] with
        inputGraph := some ⟨7, Rdf.Graph.empty⟩ }
    let without : OperationContext :=
      .ofParameters [("onViolation", .text "never"), ("shapesFile", .text " ")]
    let session : Session := ⟨Host.initial Files.empty .never, []⟩
    (∃ result result' after after',
      execute {} strict session = (.ok result, after) ∧
      execute {} lenient session = (.ok result', after') ∧
      result.metadata = result'.metadata ∧
      (result.success = false ∧ result.outputGraph = none) ∧
      result'.success = true ∧ result'.outputGraph = some ⟨7, Rdf.Graph.empty⟩) ∧
    ∃ result after, execute {} without session = (.ok result, after) ∧
      result.success = true ∧ result.outputGraph = none ∧
      Dict.get? "skipped" result.metadata = some (.bool true) := by
  intro strict lenient without session
  have checked : ((ShapesGraph.parse 0 personShapes).toOption.map fun read =>
      (validate read.1 32 Rdf.Graph.empty).conforms) = some false := by decide +kernel
  obtain ⟨⟨shapes, supply⟩, read, violated⟩ := Option.map_eq_some_iff.mp checked
  have parsed : ShapesGraph.parse 0 personShapes = .ok (shapes, supply) := by
    cases found : ShapesGraph.parse 0 personShapes with
    | error error =>
        rw [found] at read
        cases read
    | ok outcome =>
        rw [found] at read
        cases read
        rfl
  have same : SameButPolicy {} {} strict lenient :=
    ⟨rfl, by decide +kernel, by decide +kernel, rfl⟩
  have supplies : Supplies strict session.host.files personShapes :=
    .inline (by decide +kernel) (by decide +kernel)
  have unnamed : strict.nonBlankText? "onViolation" = none := by decide +kernel
  have named : lenient.nonBlankText? "onViolation" = some " Warn" := by decide +kernel
  have word : Text.lowerAscii (Text.trim " Warn") = "warn" := by decide +kernel
  have warned : ViolationPolicy.parse " Warn" = .ok .warn := by
    rw [ViolationPolicy.parse, word]
    rfl
  have decided : parsePolicy .fail strict = .ok .fail := by rw [parsePolicy, unnamed]
  have decided' : parsePolicy .fail lenient = .ok .warn := by
    rw [parsePolicy, named]
    exact congrArg (Except.mapError _) warned
  obtain ⟨ofPolicies, ofNone⟩ := execute_verdict
  obtain ⟨result, result', after, after', ran, ran', metadata, judged, judged', -⟩ :=
    ofPolicies {} {} strict lenient session personShapes shapes supply .fail .warn _ same supplies
      parsed rfl decided decided'
  have fails : result.success = false :=
    judged.failure.mpr ⟨rfl, Report.conforms_eq_false_iff.mp violated⟩
  have succeeds : result'.success = true := by
    rw [← Bool.not_eq_false, judged'.failure]
    exact fun impossible => nomatch impossible.1
  exact ⟨⟨result, result', after, after', ran, ran', metadata,
      ⟨fails, judged.graphOfFailure fails⟩, succeeds, judged'.graphOfSuccess succeeds⟩,
    ofNone {} without session (by decide +kernel) (by decide +kernel)⟩

end RdfPipeline.Shape
