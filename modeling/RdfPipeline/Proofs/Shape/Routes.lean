import RdfPipeline.Proofs.Shape.Closure
import RdfPipeline.Proofs.Shape.DistinctFindings
import RdfPipeline.Proofs.Shape.Targets

/-!
# Routes to results

A shape is checked at a focus node once for every route of property shapes that leads there from a
shape with targets. Along one route no failure is reported twice, so that a failure which several
routes lead to is reported as often as there are such routes.
-/

set_option autoImplicit false

namespace RdfPipeline.Shape

open Rdf (Graph Iri Term)

/-! ## Visits -/

/-- A check of a shape at a focus node, with the ids and focus nodes that lead there, the last one
first, and with the levels that are left. -/
structure Visit where
  route : List (Term × Term)
  shape : Shape
  focus : Term
  levels : Nat

/-- All visits that the check of a shape at its focus nodes consists of. -/
def visits (graph : Graph) (shapes : ShapesGraph) :
    Nat → List (Term × Term) → Shape → List Term → List Visit
  | 0, above, shape, focusNodes =>
      if shape.deactivated then []
      else focusNodes.map fun focus => ⟨(shape.id, focus) :: above, shape, focus, 0⟩
  | levels + 1, above, shape, focusNodes =>
      if shape.deactivated then []
      else
        focusNodes.flatMap fun focus =>
          let route := (shape.id, focus) :: above
          ⟨route, shape, focus, levels + 1⟩ ::
            (shape.properties.filterMap shapes.get?).flatMap fun property =>
              visits graph shapes levels route property (valueNodes graph shape focus)

/-- The visits of all shapes with targets at their focus nodes. -/
def allVisits (graph : Graph) (shapes : ShapesGraph) (maxDepth : Nat) : List Visit :=
  shapes.targetedShapes.flatMap fun shape =>
    visits graph shapes maxDepth [] shape (focusNodes graph shape)

/-- A finding, with the constraint and its position among those of the visited shape. -/
structure Failure where
  visit : Visit
  constraint : Constraint
  position : Nat
  finding : Finding

def Failure.result (failure : Failure) : Result :=
  toResult failure.visit.shape failure.visit.focus failure.constraint failure.finding

/-- Where and why something fails, but not along which route. -/
structure Failure.Identity where
  shape : Term
  /-- The position of the constraint in this shape. -/
  position : Nat
  focus : Term
  value : Option Term
  path : Option Path
  message : String

def Failure.identity (failure : Failure) : Failure.Identity where
  shape := failure.visit.shape.id
  position := failure.position
  focus := failure.visit.focus
  value := failure.finding.value
  path := failure.result.path
  message := failure.finding.message

def Visit.failures (graph : Graph) (shapes : ShapesGraph) (visit : Visit) : List Failure :=
  visit.shape.constraints.zipIdx.flatMap fun numbered =>
    (numbered.1.findings graph shapes (conforms graph shapes visit.levels) visit.shape visit.focus
      (valueNodes graph visit.shape visit.focus)).map (⟨visit, numbered.1, numbered.2, ·⟩)

def failures (graph : Graph) (shapes : ShapesGraph) (maxDepth : Nat) : List Failure :=
  (allVisits graph shapes maxDepth).flatMap (Visit.failures graph shapes)

variable {graph : Graph} {shapes : ShapesGraph}

theorem Visit.map_failures (visit : Visit) :
    (visit.failures graph shapes).map Failure.result =
      ownResults graph shapes (conforms graph shapes visit.levels) visit.shape visit.focus
        (valueNodes graph visit.shape visit.focus) := by
  rw [Visit.failures, List.map_flatMap, ownResults, ← List.zipIdx_map_fst 0 visit.shape.constraints,
    List.flatMap_map, List.zipIdx_map_fst]
  simp only [List.map_map]
  rfl

/-- The results of a check are those of its visits, in their order. -/
theorem check_eq_visits (levels : Nat) (above : List (Term × Term)) (shape : Shape)
    (focusNodes : List Term) :
    check graph shapes levels shape focusNodes =
      ((visits graph shapes levels above shape focusNodes).flatMap
        (Visit.failures graph shapes)).map Failure.result := by
  induction levels generalizing above shape focusNodes with
  | zero =>
      rw [check, visits]
      split
      · rfl
      · rw [List.flatMap_map, List.map_flatMap]
        exact List.flatMap_congr fun focus _ =>
          (Visit.map_failures ⟨(shape.id, focus) :: above, shape, focus, 0⟩).symm
  | succ levels ih =>
      rw [check_succ, visits]
      split
      · rfl
      · rw [List.flatMap_assoc, List.map_flatMap]
        refine List.flatMap_congr fun focus _ => ?_
        rw [List.flatMap_cons, List.map_append, Visit.map_failures, List.flatMap_assoc,
          List.map_flatMap]
        exact congrArg _ (List.flatMap_congr fun property _ => ih _ property _)

theorem results_eq_failures (maxDepth : Nat) :
    (validate shapes maxDepth graph).results =
      (failures graph shapes maxDepth).map Failure.result := by
  rw [failures, allVisits, List.flatMap_assoc, List.map_flatMap]
  exact List.flatMap_congr fun shape _ => check_eq_visits maxDepth [] shape _

/-! ## Routes -/

theorem eq_of_suffixes {α : Type} {first other : α} {above whole : List α}
    (suffix : first :: above <:+ whole) (otherSuffix : other :: above <:+ whole) :
    first = other := by
  have nested := List.suffix_of_suffix_length_le suffix otherSuffix (Nat.le_refl _)
  exact (List.cons.inj (nested.eq_of_length rfl)).1

theorem suffix_route {levels : Nat} {above : List (Term × Term)} {shape : Shape}
    {focusNodes : List Term} {visit : Visit}
    (member : visit ∈ visits graph shapes levels above shape focusNodes) :
    ∃ focus ∈ focusNodes, (shape.id, focus) :: above <:+ visit.route := by
  induction levels generalizing above shape focusNodes with
  | zero =>
      rw [visits] at member
      split at member
      · cases member
      · obtain ⟨focus, inNodes, rfl⟩ := List.mem_map.mp member
        exact ⟨focus, inNodes, List.suffix_refl _⟩
  | succ levels ih =>
      rw [visits] at member
      split at member
      · cases member
      · obtain ⟨focus, inNodes, found⟩ := List.mem_flatMap.mp member
        refine ⟨focus, inNodes, ?_⟩
        rcases List.mem_cons.mp found with rfl | below
        · exact List.suffix_refl _
        · obtain ⟨property, -, found⟩ := List.mem_flatMap.mp below
          obtain ⟨value, -, suffix⟩ := ih found
          exact (List.suffix_cons _ _).trans suffix

theorem pairwise_found {ids : List Term} (distinct : ids.Nodup) :
    (ids.filterMap shapes.get?).Pairwise fun left right => left.id ≠ right.id := by
  refine List.pairwise_filterMap.mpr (distinct.imp ?_)
  intro left right different shape found other otherFound
  rwa [ShapesGraph.id_of_get? found, ShapesGraph.id_of_get? otherFound]

theorem disjoint_routes {levels : Nat} {above : List (Term × Term)} {shape other : Shape}
    {focusNodes otherNodes : List Term}
    (apart : ∀ focus ∈ focusNodes, ∀ otherFocus ∈ otherNodes,
      (shape.id, focus) ≠ (other.id, otherFocus)) :
    ((visits graph shapes levels above shape focusNodes).map (·.route)).Disjoint
      ((visits graph shapes levels above other otherNodes).map (·.route)) := by
  intro route inFirst inSecond
  obtain ⟨visit, member, rfl⟩ := List.mem_map.mp inFirst
  obtain ⟨otherVisit, otherMember, same⟩ := List.mem_map.mp inSecond
  obtain ⟨focus, inNodes, suffix⟩ := suffix_route member
  obtain ⟨otherFocus, inOthers, otherSuffix⟩ := suffix_route otherMember
  rw [same] at otherSuffix
  exact apart focus inNodes otherFocus inOthers (eq_of_suffixes suffix otherSuffix)

theorem visits_eq_flatMap (levels : Nat) (above : List (Term × Term)) (shape : Shape)
    (focusNodes : List Term) :
    visits graph shapes levels above shape focusNodes =
      focusNodes.flatMap fun focus => visits graph shapes levels above shape [focus] := by
  cases levels <;> cases active : shape.deactivated <;> simp [visits, active, List.map_eq_flatMap]

theorem nodup_routes_flatMap {levels : Nat} {above : List (Term × Term)} {listed : List Shape}
    {nodes : Shape → List Term} (different : listed.Pairwise fun left right => left.id ≠ right.id)
    (each : ∀ shape ∈ listed,
      ((visits graph shapes levels above shape (nodes shape)).map (·.route)).Nodup) :
    ((listed.flatMap fun shape =>
      visits graph shapes levels above shape (nodes shape)).map (·.route)).Nodup := by
  rw [List.map_flatMap, List.nodup_flatMap]
  refine ⟨each, different.imp fun apart => disjoint_routes ?_⟩
  intro focus _ otherFocus _ same
  exact apart (congrArg Prod.fst same)

section Proper

variable (proper : ∀ id shape, shapes.get? id = some shape → IsProper shape)

include proper

theorem nodup_routes {levels : Nat} {above : List (Term × Term)} {shape : Shape}
    {focusNodes : List Term} (properties : shape.properties.Nodup) (distinct : focusNodes.Nodup) :
    ((visits graph shapes levels above shape focusNodes).map (·.route)).Nodup := by
  induction levels generalizing above shape focusNodes with
  | zero =>
      rw [visits]
      split
      · exact .nil
      · rw [List.map_map]
        refine distinct.map fun focus other same => ?_
        exact congrArg Prod.snd (List.cons.inj same).1
  | succ levels ih =>
      rw [visits_eq_flatMap, List.map_flatMap, List.nodup_flatMap]
      constructor
      · intro focus _
        rw [visits]
        split
        · exact .nil
        · rw [List.flatMap_singleton, List.map_cons, List.nodup_cons]
          constructor
          · -- Every route below goes on from here, so that it is longer.
            intro member
            obtain ⟨visit, below, same⟩ := List.mem_map.mp member
            obtain ⟨property, -, found⟩ := List.mem_flatMap.mp below
            obtain ⟨value, -, suffix⟩ := suffix_route found
            have longer := suffix.length_le
            rw [same, List.length_cons] at longer
            exact Nat.not_succ_le_self _ longer
          · refine nodup_routes_flatMap (pairwise_found properties) fun property member => ?_
            obtain ⟨id, -, found⟩ := List.mem_filterMap.mp member
            exact ih (proper id property found).properties (nodup_valueNodes graph shape focus)
      · refine distinct.imp fun apart => disjoint_routes ?_
        intro focus focusIs otherFocus otherIs same
        rw [List.mem_singleton] at focusIs otherIs
        exact apart (focusIs.symm.trans ((congrArg Prod.snd same).trans otherIs))

theorem proper_of_mem_visits {levels : Nat} {above : List (Term × Term)} {shape : Shape}
    {focusNodes : List Term} (properShape : IsProper shape) :
    ∀ visit ∈ visits graph shapes levels above shape focusNodes, IsProper visit.shape := by
  intro visit member
  induction levels generalizing above shape focusNodes with
  | zero =>
      rw [visits] at member
      split at member
      · cases member
      · obtain ⟨focus, -, rfl⟩ := List.mem_map.mp member
        exact properShape
  | succ levels ih =>
      rw [visits] at member
      split at member
      · cases member
      · obtain ⟨focus, -, found⟩ := List.mem_flatMap.mp member
        rcases List.mem_cons.mp found with rfl | below
        · exact properShape
        · obtain ⟨property, member, found⟩ := List.mem_flatMap.mp below
          obtain ⟨id, -, isProperty⟩ := List.mem_filterMap.mp member
          exact ih (proper id property isProperty) found

theorem nodup_allRoutes (targeted : shapes.targeted.Nodup) (maxDepth : Nat) :
    ((allVisits graph shapes maxDepth).map (·.route)).Nodup := by
  refine nodup_routes_flatMap (pairwise_found targeted) fun shape member => ?_
  obtain ⟨id, -, found⟩ := List.mem_filterMap.mp member
  exact nodup_routes proper (proper id shape found).properties (nodup_focusNodes graph shape)

theorem proper_of_mem_allVisits (maxDepth : Nat) :
    ∀ visit ∈ allVisits graph shapes maxDepth, IsProper visit.shape := by
  intro visit member
  obtain ⟨shape, targeted, found⟩ := List.mem_flatMap.mp member
  obtain ⟨id, -, isShape⟩ := List.mem_filterMap.mp targeted
  exact proper_of_mem_visits proper (proper id shape isShape) visit found

end Proper

/-! ## Failures -/

theorem visit_of_mem_failures {visit : Visit} {failure : Failure}
    (member : failure ∈ visit.failures graph shapes) : failure.visit = visit := by
  obtain ⟨numbered, -, found⟩ := List.mem_flatMap.mp member
  obtain ⟨finding, -, rfl⟩ := List.mem_map.mp found
  rfl

/-- One visit has no failure twice. -/
theorem Visit.nodup_failures {visit : Visit} (proper : IsProper visit.shape) :
    ((visit.failures graph shapes).map Failure.identity).Nodup := by
  rw [Visit.failures, List.map_flatMap, List.nodup_flatMap]
  constructor
  · intro numbered member
    have single : numbered.1.isClosed = true →
        ∃ value, valueNodes graph visit.shape visit.focus = [value] := by
      intro closed
      have noPath := proper.closed _ (List.fst_mem_of_mem_zipIdx member) closed
      exact ⟨visit.focus, by rw [valueNodes, noPath]⟩
    have different : AllDifferent (numbered.1.findings graph shapes
        (conforms graph shapes visit.levels) visit.shape visit.focus
        (valueNodes graph visit.shape visit.focus)) :=
      numbered.1.findings_allDifferent (nodup_valueNodes graph visit.shape visit.focus) single
    rw [List.map_map]
    refine List.Nodup.of_map (fun identity => (identity.value, identity.message)) ?_
    rw [List.map_map]
    exact different
  · refine (Rdf.pairwise_zipIdx _ _).imp ?_
    intro left right apart identity inLeft inRight
    obtain ⟨failure, found, rfl⟩ := List.mem_map.mp inLeft
    obtain ⟨other, otherFound, same⟩ := List.mem_map.mp inRight
    obtain ⟨finding, -, rfl⟩ := List.mem_map.mp found
    obtain ⟨otherFinding, -, rfl⟩ := List.mem_map.mp otherFound
    exact apart (congrArg Failure.Identity.position same).symm

theorem nodup_failures {α : Type} {key : Visit → α} {listed : List Visit}
    (distinct : (listed.map key).Nodup) (proper : ∀ visit ∈ listed, IsProper visit.shape) :
    ((listed.flatMap (Visit.failures graph shapes)).map fun failure =>
      (key failure.visit, failure.identity)).Nodup := by
  rw [List.map_flatMap, List.nodup_flatMap]
  constructor
  · intro visit member
    refine List.Nodup.of_map Prod.snd ?_
    rw [List.map_map]
    exact Visit.nodup_failures (proper visit member)
  · refine (List.pairwise_map.mp distinct).imp ?_
    intro left right apart pair inLeft inRight
    obtain ⟨failure, found, rfl⟩ := List.mem_map.mp inLeft
    obtain ⟨other, otherFound, same⟩ := List.mem_map.mp inRight
    rw [visit_of_mem_failures found, visit_of_mem_failures otherFound] at same
    exact apart (congrArg Prod.fst same).symm

/-- The results of a report are failures, each along a route of property shapes. Along one route no
two of them stem from the same constraint of the same shape and agree in focus node, value, path and
message. So none agree at all if no shape is reached at a focus node along several routes. -/
theorem validate_reports_once_per_route {source : Graph} {shapes : ShapesGraph}
    (compiled : ShapesGraph.ofGraph source = .ok shapes) (maxDepth : Nat) (graph : Graph) :
    (validate shapes maxDepth graph).results =
        (failures graph shapes maxDepth).map Failure.result ∧
      ((failures graph shapes maxDepth).map fun failure =>
        (failure.visit.route, failure.identity)).Nodup ∧
      (((allVisits graph shapes maxDepth).map fun visit => (visit.shape.id, visit.focus)).Nodup →
        ((failures graph shapes maxDepth).map Failure.identity).Nodup) := by
  have proper : ∀ id shape, shapes.get? id = some shape → IsProper shape := by
    intro id shape found
    exact ofNode_isProper source id shape ((compiled_of_ofGraph compiled).keyed id shape found).2
  have properVisits : ∀ visit ∈ allVisits graph shapes maxDepth, IsProper visit.shape :=
    proper_of_mem_allVisits proper maxDepth
  have targeted := ShapesGraph.nodup_targeted compiled
  refine ⟨results_eq_failures maxDepth,
    nodup_failures (nodup_allRoutes proper targeted maxDepth) properVisits, fun once => ?_⟩
  refine List.Nodup.of_map (fun identity => ((identity.shape, identity.focus), identity)) ?_
  rw [List.map_map]
  exact nodup_failures once properVisits

/-- The people that a person knows and those that they like have to have names. -/
def namedFriends : Graph :=
  Graph.ofList
    [ ⟨.iri (ex "Person"), sh "targetNode", .iri (ex "alice")⟩,
      ⟨.iri (ex "Person"), sh "property", .iri (ex "Known")⟩,
      ⟨.iri (ex "Person"), sh "property", .iri (ex "Liked")⟩,
      ⟨.iri (ex "Known"), sh "path", .iri (ex "knows")⟩,
      ⟨.iri (ex "Known"), sh "property", .iri (ex "Named")⟩,
      ⟨.iri (ex "Liked"), sh "path", .iri (ex "likes")⟩,
      ⟨.iri (ex "Liked"), sh "property", .iri (ex "Named")⟩,
      ⟨.iri (ex "Named"), sh "path", .iri (ex "name")⟩,
      ⟨.iri (ex "Named"), sh "minCount", .literal (.typed "1" (Rdf.xsd "integer"))⟩ ]

def named : Shape :=
  { acquainted with
    id := .iri (ex "Named")
    path := some (.predicate (ex "name"))
    constraints := [.minCount 1] }

def known : Shape :=
  { named with
    id := .iri (ex "Known")
    path := some (.predicate (ex "knows"))
    constraints := []
    properties := [named.id] }

def liked : Shape :=
  { known with
    id := .iri (ex "Liked")
    path := some (.predicate (ex "likes")) }

def person : Shape :=
  { known with
    id := .iri (ex "Person")
    targets := [.node (.iri (ex "alice"))]
    path := none
    properties := [known.id, liked.id] }

theorem ofGraph_namedFriends :
    ShapesGraph.ofGraph namedFriends = .ok ⟨[person, known, liked, named], [person.id]⟩ := by
  with_unfolding_all rfl

/-- Alice knows Bob, and she likes him. -/
def friends : Graph :=
  Graph.ofList
    [ ⟨.iri (ex "alice"), ex "knows", .iri (ex "bob")⟩,
      ⟨.iri (ex "alice"), ex "likes", .iri (ex "bob")⟩ ]

theorem validate_reports_once_per_route_namedFriends :
    let shapes : ShapesGraph := ⟨[person, known, liked, named], [person.id]⟩
    let acquaintances := Graph.ofList [⟨.iri (ex "alice"), ex "knows", .iri (ex "bob")⟩]
    ShapesGraph.ofGraph namedFriends = .ok shapes ∧
      (failures friends shapes 32).length = 2 ∧
      ((failures friends shapes 32).map fun failure =>
        (failure.visit.route, failure.identity)).Nodup ∧
      (failures acquaintances shapes 32).length = 1 ∧
      ((allVisits acquaintances shapes 32).map fun visit => (visit.shape.id, visit.focus)).Nodup ∧
      ((failures acquaintances shapes 32).map Failure.identity).Nodup := by
  intro shapes acquaintances
  obtain ⟨-, distinct, -⟩ := validate_reports_once_per_route ofGraph_namedFriends 32 friends
  obtain ⟨-, -, unshared⟩ := validate_reports_once_per_route ofGraph_namedFriends 32 acquaintances
  have once : ((allVisits acquaintances shapes 32).map
      fun visit => (visit.shape.id, visit.focus)).Nodup := by decide +kernel
  exact ⟨ofGraph_namedFriends, by with_unfolding_all rfl, distinct, by with_unfolding_all rfl,
    once, unshared once⟩

/-- Bob's missing name counts twice, and nothing but the route tells one failure from the other. -/
theorem not_nodup_identities_namedFriends :
    ∃ shapes, ShapesGraph.ofGraph namedFriends = .ok shapes ∧
      (validate shapes 32 friends).count .violation = 2 ∧
      ¬((failures friends shapes 32).map Failure.identity).Nodup := by
  have twice : (failures friends ⟨[person, known, liked, named], [person.id]⟩ 32).map
      Failure.identity = List.replicate 2
        ⟨named.id, 0, .iri (ex "bob"), none, named.path, "Less than 1 values"⟩ := by
    with_unfolding_all rfl
  refine ⟨_, ofGraph_namedFriends, by with_unfolding_all rfl, ?_⟩
  rw [twice, List.nodup_replicate]
  decide

end RdfPipeline.Shape
