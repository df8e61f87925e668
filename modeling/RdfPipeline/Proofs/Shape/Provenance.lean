import RdfPipeline.Proofs.Shape.Satisfaction
import RdfPipeline.Shape.Report

/-!
# Where results come from

A result belongs to the shape that a chain of property shapes leads to from a shape with targets. It
has the severity, the message and the path of this shape, and names one of its constraints. What is
found in deciding whether a value conforms to a shape leaves no result.
-/

set_option autoImplicit false

namespace RdfPipeline.Shape

open Rdf (Graph Iri Literal Term xsd)

variable {graph : Graph} {shapes : ShapesGraph} {shape : Shape}

/-! ## Chains of property shapes -/

/-- So many property shapes in a row lead from a shape at a focus node to a shape at one of the values
that are left at the end, all of them active. -/
inductive Descends (graph : Graph) (shapes : ShapesGraph) :
    Nat → Shape → Term → Shape → Term → Prop where
  | here {shape : Shape} {focus : Term} (active : shape.deactivated = false) :
      Descends graph shapes 0 shape focus shape focus
  | property {links : Nat} {shape property final : Shape} {focus id value node : Term}
      (active : shape.deactivated = false) (mentioned : id ∈ shape.properties)
      (found : shapes.get? id = some property) (reached : value ∈ valueNodes graph shape focus)
      (further : Descends graph shapes links property value final node) :
      Descends graph shapes (links + 1) shape focus final node

theorem Descends.active {links : Nat} {final : Shape} {focus node : Term}
    (descends : Descends graph shapes links shape focus final node) : final.deactivated = false := by
  induction descends with
  | here active => exact active
  | property _ _ _ _ _ ih => exact ih

theorem Descends.listed {links : Nat} {final : Shape} {focus node : Term}
    (descends : Descends graph shapes links shape focus final node)
    (listed : shapes.get? shape.id = some shape) : shapes.get? final.id = some final := by
  induction descends with
  | here => exact listed
  | property _ _ found _ _ ih =>
      apply ih
      rw [ShapesGraph.id_of_get? found, found]

theorem Descends.startsActive {links : Nat} {final : Shape} {focus node : Term}
    (descends : Descends graph shapes links shape focus final node) : shape.deactivated = false := by
  cases descends <;> assumption

theorem check_of_deactivated (off : shape.deactivated = true) (levels : Nat)
    (focusNodes : List Term) : check graph shapes levels shape focusNodes = [] := by
  cases levels <;> simp only [check, off, if_true]

/-- The results of a check are those of the constraints of all shapes that property shapes lead to,
each with the levels that are left there. -/
theorem mem_check_iff {levels : Nat} {focusNodes : List Term} {result : Result} :
    result ∈ check graph shapes levels shape focusNodes ↔
      ∃ focus ∈ focusNodes, ∃ links ≤ levels, ∃ source node,
        Descends graph shapes links shape focus source node ∧
        result ∈ ownResults graph shapes (conforms graph shapes (levels - links)) source node
          (valueNodes graph source node) := by
  induction levels generalizing shape focusNodes with
  | zero =>
      have noLevels : conforms graph shapes 0 = fun _ _ => true := rfl
      cases active : shape.deactivated with
      | true =>
          rw [check_of_deactivated active]
          simp only [List.not_mem_nil, false_iff]
          rintro ⟨focus, -, links, -, source, node, descends, -⟩
          exact Bool.false_ne_true (descends.startsActive.symm.trans active)
      | false =>
          simp only [check, active, Bool.false_eq_true, if_false, List.mem_flatMap]
          constructor
          · rintro ⟨focus, member, own⟩
            exact ⟨focus, member, 0, Nat.le_refl 0, shape, focus, .here active, noLevels ▸ own⟩
          · rintro ⟨focus, member, links, within, source, node, descends, own⟩
            obtain rfl := Nat.le_zero.mp within
            cases descends with
            | here => exact ⟨focus, member, noLevels ▸ own⟩
  | succ levels ih =>
      cases active : shape.deactivated with
      | true =>
          rw [check_of_deactivated active]
          simp only [List.not_mem_nil, false_iff]
          rintro ⟨focus, -, links, -, source, node, descends, -⟩
          exact Bool.false_ne_true (descends.startsActive.symm.trans active)
      | false =>
          rw [check_succ]
          simp only [active, Bool.false_eq_true, if_false, List.mem_flatMap, List.mem_append,
            List.mem_filterMap, ih]
          constructor
          · rintro ⟨focus, member, own | ⟨property, ⟨id, mentioned, found⟩, nested⟩⟩
            · exact ⟨focus, member, 0, Nat.zero_le _, shape, focus, .here active, own⟩
            · obtain ⟨value, reached, links, within, source, node, descends, own⟩ := nested
              refine ⟨focus, member, links + 1, Nat.succ_le_succ within, source, node,
                .property active mentioned found reached descends, ?_⟩
              rw [Nat.succ_sub_succ]
              exact own
          · rintro ⟨focus, member, links, within, source, node, descends, own⟩
            cases descends with
            | here => exact ⟨focus, member, .inl own⟩
            | @property links _ property _ _ id value _ _ mentioned found reached descends =>
                refine ⟨focus, member, .inr ⟨property, ⟨id, mentioned, found⟩, value, reached,
                  links, Nat.le_of_succ_le_succ within, source, node, descends, ?_⟩⟩
                rw [Nat.succ_sub_succ] at own
                exact own

theorem mem_validate_iff {maxDepth : Nat} {result : Result} :
    result ∈ (validate shapes maxDepth graph).results ↔
      ∃ target ∈ shapes.targetedShapes, ∃ focus ∈ focusNodes graph target,
        ∃ links ≤ maxDepth, ∃ source node, Descends graph shapes links target focus source node ∧
          result ∈ ownResults graph shapes (conforms graph shapes (maxDepth - links)) source node
            (valueNodes graph source node) := by
  simp only [validate, List.mem_flatMap, mem_check_iff]

/-! ## Paths of findings -/

/-- A constraint reports the usual path, unless it closes the shape. Then the path is the predicate of
a triple of one of the values, the value reported is its object, and the shape neither ignores nor
declares the predicate. -/
def Constraint.Reports (graph : Graph) (shapes : ShapesGraph) (shape : Shape) (values : List Term)
    (usual path : Option Path) (reported : Option Term) : Constraint → Prop
  | .closed ignored => ∃ predicate, path = some (.predicate predicate) ∧
      (∃ value ∈ values, ∃ object, graph.Links predicate value object ∧ reported = some object) ∧
      predicate ∉ ignored ∧
      ∀ id ∈ shape.properties, ∀ property, shapes.get? id = some property →
        property.path ≠ some (.predicate predicate)
  | _ => path = usual

section Findings

variable {values : List Term} {message : String} {finding : Finding}

theorem path_of_mem_forValues {passes : Term → Bool}
    (member : finding ∈ forValues values passes message) : finding.path = none := by
  obtain ⟨value, -, rfl⟩ := List.mem_map.mp member
  rfl

theorem path_of_mem_unlessHolds {condition : Bool}
    (member : finding ∈ unlessHolds condition message) : finding.path = none := by
  unfold unlessHolds at member
  split at member
  · cases member
  · rw [List.mem_singleton.mp member]

theorem path_of_mem_checkLength (accepts : Nat → Bool)
    (member : finding ∈ checkLength values accepts message) : finding.path = none := by
  obtain ⟨value, -, member⟩ := List.mem_flatMap.mp member
  split at member
  · split at member
    · cases member
    · rw [List.mem_singleton.mp member]
  · rw [List.mem_singleton.mp member]

theorem path_of_mem_checkDatatype {datatype : Iri}
    (member : finding ∈ checkDatatype values datatype) : finding.path = none := by
  obtain ⟨value, -, member⟩ := List.mem_flatMap.mp member
  split at member
  · split at member
    · split at member
      · cases member
      · rw [List.mem_singleton.mp member]
    · rw [List.mem_singleton.mp member]
  · rw [List.mem_singleton.mp member]

theorem path_of_mem_checkExactlyOne {conforms : Term → Term → Bool} {ids : List Term}
    (member : finding ∈ checkExactlyOne conforms values ids) : finding.path = none := by
  obtain ⟨value, -, member⟩ := List.mem_flatMap.mp member
  dsimp only at member
  split at member
  · cases member
  · rw [List.mem_singleton.mp member]

theorem mem_checkClosed_iff {allowed : List Iri} :
    finding ∈ checkClosed graph allowed values ↔
      ∃ value ∈ values, ∃ predicate object, graph.Links predicate value object ∧
        predicate ∉ allowed ∧
        finding = ⟨some object,
          "Predicate " ++ predicate.toText ++ " is not allowed (closed shape)",
          some (.predicate predicate)⟩ := by
  simp only [checkClosed, List.mem_filterMap, List.mem_flatMap, Prod.exists]
  constructor
  · rintro ⟨predicate, object, ⟨value, member, outgoing⟩, reported⟩
    split at reported
    · cases reported
    next notAllowed =>
      refine ⟨value, member, predicate, object, Graph.mem_outgoing_iff.mp outgoing, ?_, ?_⟩
      · rwa [List.contains_iff_mem] at notAllowed
      · exact (Option.some.inj reported).symm
  · rintro ⟨value, member, predicate, object, links, notAllowed, rfl⟩
    refine ⟨predicate, object, ⟨value, member, Graph.mem_outgoing_iff.mpr links⟩, ?_⟩
    rw [if_neg (by rwa [List.contains_iff_mem])]

theorem Constraint.reports_of_mem_findings {conforms : Term → Term → Bool} {focus : Term}
    (constraint : Constraint)
    (member : finding ∈ constraint.findings graph shapes conforms shape focus values) :
    constraint.Reports graph shapes shape values none finding.path finding.value := by
  cases constraint with
  | datatype iri => exact path_of_mem_checkDatatype member
  | minCount count => exact path_of_mem_unlessHolds member
  | maxCount count => exact path_of_mem_unlessHolds member
  | minLength length => exact path_of_mem_checkLength (length ≤ ·) member
  | maxLength length => exact path_of_mem_checkLength (· ≤ length) member
  | uniqueLanguage =>
      obtain ⟨tag, -, rfl⟩ := List.mem_map.mp member
      rfl
  | equals predicate =>
      cases List.mem_append.mp member with
      | inl surplus => exact path_of_mem_forValues surplus
      | inr missing => exact path_of_mem_forValues missing
  | hasValue term => exact path_of_mem_unlessHolds member
  | exactlyOne ids => exact path_of_mem_checkExactlyOne member
  | closed ignored =>
      obtain ⟨value, reached, predicate, object, links, notAllowed, rfl⟩ :=
        mem_checkClosed_iff.mp member
      rw [mem_allowedPredicates_iff, not_or] at notAllowed
      obtain ⟨notIgnored, undeclared⟩ := notAllowed
      refine ⟨predicate, rfl, ⟨value, reached, object, links, rfl⟩, notIgnored, ?_⟩
      intro id mentioned property found declared
      exact undeclared ⟨id, mentioned, property, found, declared⟩
  | _ => exact path_of_mem_forValues member

/-- A path that no finding replaces is the one of the shape. -/
theorem Constraint.Reports.orElse {constraint : Constraint} {path : Option Path}
    {reported : Option Term}
    (reports : constraint.Reports graph shapes shape values none path reported)
    (usual : Option Path) :
    constraint.Reports graph shapes shape values usual (path <|> usual) reported := by
  cases constraint with
  | closed ignored =>
      obtain ⟨predicate, rfl, rest⟩ := reports
      exact ⟨predicate, rfl, rest⟩
  | _ =>
      obtain rfl : path = none := reports
      rfl

end Findings

/-! ## Results -/

/-- All that a result says comes from one shape and one of its constraints. -/
structure Attributed (graph : Graph) (shapes : ShapesGraph) (maxDepth : Nat) (result : Result)
    (source : Shape) (constraint : Constraint) : Prop where
  id_eq : source.id = result.shape
  listed : shapes.get? result.shape = some source
  active : source.deactivated = false
  /-- Property shapes alone lead from a shape with targets to the source. -/
  reached : ∃ target ∈ shapes.targetedShapes, ∃ focus ∈ focusNodes graph target,
    ∃ links ≤ maxDepth, Descends graph shapes links target focus source result.focusNode
  severity_eq : result.severity = source.severity
  message_eq : ∀ message, source.message = some message → result.message = message
  own : constraint ∈ source.constraints
  component_eq : result.component = constraint.component
  path : constraint.Reports graph shapes source (valueNodes graph source result.focusNode)
    source.path result.path result.value

theorem get?_id_of_mem_targetedShapes (targeted : shape ∈ shapes.targetedShapes) :
    shapes.get? shape.id = some shape := by
  obtain ⟨id, -, found⟩ := List.mem_filterMap.mp targeted
  rw [ShapesGraph.id_of_get? found, found]

theorem exists_attributed {maxDepth : Nat} {result : Result}
    (member : result ∈ (validate shapes maxDepth graph).results) :
    ∃ source constraint, Attributed graph shapes maxDepth result source constraint := by
  obtain ⟨target, targeted, focus, selected, links, within, source, node, descends, own⟩ :=
    mem_validate_iff.mp member
  obtain ⟨constraint, ownConstraint, reported⟩ := List.mem_flatMap.mp own
  obtain ⟨finding, found, rfl⟩ := List.mem_map.mp reported
  have listed := descends.listed (get?_id_of_mem_targetedShapes targeted)
  have reports := constraint.reports_of_mem_findings found
  refine ⟨source, constraint, rfl, listed, descends.active,
    ⟨target, targeted, focus, selected, links, within, descends⟩, rfl, ?message, ownConstraint, rfl,
    reports.orElse source.path⟩
  case message =>
    intro message stated
    simp only [toResult, stated, Option.getD_some]

namespace Report

theorem count_add_count_add_count (report : Report) :
    report.count .violation + report.count .warning + report.count .info =
      report.results.length := by
  unfold count withSeverity
  induction report.results with
  | nil => rfl
  | cons result rest ih =>
      rw [List.length_cons, ← ih]
      cases severity : result.severity <;>
        simp only [List.filter_cons, severity, reduceCtorEq, decide_false, decide_true,
          Bool.false_eq_true, if_false, if_true, List.length_cons] <;> omega

theorem conforms_iff {report : Report} :
    report.conforms = true ↔ ∀ result ∈ report.results, result.severity ≠ .violation := by
  simp only [conforms, count, withSeverity, beq_iff_eq, List.length_eq_zero_iff,
    List.filter_eq_nil_iff, decide_eq_true_eq, ne_eq]

end Report

/-- Exactly the constraints of the shapes that property shapes lead to from shapes with targets are
reported, and each result can be attributed to one of them. The counts add up, and only violations
keep the data from conforming. -/
theorem validate_attributed (shapes : ShapesGraph) (maxDepth : Nat) (graph : Graph) :
    (∀ result, result ∈ (validate shapes maxDepth graph).results ↔
      ∃ target ∈ shapes.targetedShapes, ∃ focus ∈ focusNodes graph target,
        ∃ links ≤ maxDepth, ∃ source node, Descends graph shapes links target focus source node ∧
          result ∈ ownResults graph shapes (conforms graph shapes (maxDepth - links)) source node
            (valueNodes graph source node)) ∧
    (∀ result ∈ (validate shapes maxDepth graph).results,
      ∃ source constraint, Attributed graph shapes maxDepth result source constraint) ∧
    (validate shapes maxDepth graph).count .violation +
        (validate shapes maxDepth graph).count .warning +
        (validate shapes maxDepth graph).count .info =
      (validate shapes maxDepth graph).results.length ∧
    ((validate shapes maxDepth graph).conforms = true ↔
      ∀ result ∈ (validate shapes maxDepth graph).results, result.severity ≠ .violation) :=
  ⟨fun _ => mem_validate_iff, fun _ member => exists_attributed member,
    Report.count_add_count_add_count _, Report.conforms_iff⟩

/-- Alice should know somebody who knows somebody, and have no other properties. -/
def sociable : Shape :=
  { acquainted with
    id := .iri (ex "Sociable")
    targets := [.node (.iri (ex "alice"))]
    path := none
    constraints := [.closed []]
    properties := [.iri (ex "Advised")] }

def advised : Shape :=
  { acquainted with
    id := .iri (ex "Advised")
    constraints := [.node acquainted.id]
    severity := .warning
    message := some "knows a stranger" }

/-- That Bob knows nobody is a warning on account of Alice, and no violation of his own. -/
theorem validate_attributed_sociable :
    let shapes : ShapesGraph := ⟨[sociable, advised, acquainted], [sociable.id]⟩
    let data := Graph.ofList
      [ ⟨.iri (ex "alice"), ex "knows", .iri (ex "bob")⟩,
        ⟨.iri (ex "alice"), ex "likes", .iri (ex "tea")⟩ ]
    ∃ closed nested, (validate shapes 2 data).results = [closed, nested] ∧
      (closed.shape = sociable.id ∧ closed.path = some (.predicate (ex "likes")) ∧
        closed.value = some (.iri (ex "tea"))) ∧
      (nested.shape = advised.id ∧ nested.severity = .warning ∧
        nested.message = "knows a stranger" ∧ nested.path = acquainted.path) ∧
      (∃ source constraint, Attributed data shapes 2 closed source constraint) ∧
      ∃ source constraint, Attributed data shapes 2 nested source constraint := by
  intro shapes data
  have results : (validate shapes 2 data).results =
      [ toResult sociable (.iri (ex "alice")) (.closed [])
          ⟨some (.iri (ex "tea")), "Predicate <http://ex.org/likes> is not allowed (closed shape)",
            some (.predicate (ex "likes"))⟩,
        toResult advised (.iri (ex "alice")) (.node acquainted.id)
          ⟨some (.iri (ex "bob")), "Value does not conform to shape <http://ex.org/Acquainted>",
            none⟩ ] := by
    with_unfolding_all rfl
  obtain ⟨-, attributed, -, -⟩ := validate_attributed shapes 2 data
  rw [results] at attributed ⊢
  exact ⟨_, _, rfl, ⟨rfl, rfl, rfl⟩, ⟨rfl, rfl, rfl, rfl⟩, attributed _ List.mem_cons_self,
    attributed _ (List.mem_cons_of_mem _ List.mem_cons_self)⟩

end RdfPipeline.Shape
