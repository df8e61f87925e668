import RdfPipeline.Proofs.Shape.Compilation
import RdfPipeline.Proofs.Shape.Enumeration

/-!
# Compilation and the order of triples

A parameter that may have many values is read from all of them, in any order. Of a parameter that
has one value the first is read, so that an enumeration of the triples matters to compilation by
nothing but the first values of these.
-/

set_option autoImplicit false

namespace RdfPipeline.Shape

open Rdf (Graph Iri Literal Subject Term rdf xsd)

/-- The parameters of shapes, and of the paths and collections in them, that are read once. -/
def singleNames : List String :=
  [ "path", "severity", "message", "name", "deactivated", "datatype", "nodeKind", "minCount",
    "maxCount", "uniqueLang", "minInclusive", "maxInclusive", "minExclusive", "maxExclusive",
    "minLength", "maxLength", "pattern", "flags", "languageIn", "in", "closed",
    "ignoredProperties", "inversePath", "zeroOrMorePath", "oneOrMorePath", "zeroOrOnePath",
    "alternativePath" ]

def singleValued : List Iri :=
  rdf "first" :: rdf "rest" :: singleNames.map sh

/-- The graphs have the same triples, and the same first values where only these are read. -/
structure SameFirsts (left right : Graph) : Prop where
  triples : left.SameTriples right
  objectOf?_eq : ∀ predicate ∈ singleValued, ∀ node,
    left.objectOf? node predicate = right.objectOf? node predicate

/-- If values of a parameter have an order at all, the first has to be the same. -/
theorem sameFirsts_of_repeated {left right : Graph} (same : left.SameTriples right)
    (firsts : ∀ predicate ∈ singleValued, ∀ node, 1 < (left.objectsOf node predicate).length →
      left.objectOf? node predicate = right.objectOf? node predicate) :
    SameFirsts left right := by
  refine ⟨same, fun predicate single node => ?_⟩
  by_cases repeated : 1 < (left.objectsOf node predicate).length
  · exact firsts predicate single node repeated
  · have permuted := same.objectsOf node predicate
    have sameObjects : left.objectsOf node predicate = right.objectsOf node predicate := by
      cases objects : left.objectsOf node predicate with
      | nil => exact (List.nil_perm.mp (objects ▸ permuted)).symm
      | cons first rest =>
          rw [objects] at repeated permuted
          have short : rest = [] := by
            rw [List.length_cons] at repeated
            exact List.length_eq_zero_iff.mp (by omega)
          subst short
          exact List.singleton_perm.mp permuted
    rw [Graph.objectOf?, Graph.objectOf?, sameObjects]

namespace SameFirsts

variable {left right : Graph}

theorem symm (same : SameFirsts left right) : SameFirsts right left :=
  ⟨fun triple => (same.triples triple).symm,
    fun predicate single node => (same.objectOf?_eq predicate single node).symm⟩

theorem objectOf?_sh (same : SameFirsts left right) (name : String) (single : name ∈ singleNames)
    (node : Term) : left.objectOf? node (sh name) = right.objectOf? node (sh name) :=
  same.objectOf?_eq (sh name) (by simp [singleValued, List.mem_map_of_mem single]) node

/-! ## Single values -/

theorem readCells_eq (same : SameFirsts left right) (fuel : Nat) (visited : List Term)
    (current : Term) :
    Rdf.readCells left fuel visited current = Rdf.readCells right fuel visited current := by
  have first := same.objectOf?_eq (rdf "first") (by simp [singleValued])
  have rest := same.objectOf?_eq (rdf "rest") (by simp [singleValued])
  induction fuel generalizing visited current with
  | zero =>
      unfold Rdf.readCells
      rw [first, rest]
  | succ fuel ih =>
      unfold Rdf.readCells
      simp only [first, rest, ih]

theorem readCollection_eq (same : SameFirsts left right) :
    readCollection left = readCollection right := by
  funext head
  rw [readCollection, readCollection, Rdf.readCollection, Rdf.readCollection,
    same.triples.size_eq, same.readCells_eq]

theorem literalText?_eq (same : SameFirsts left right) {name : String}
    (single : name ∈ singleNames) (id : Term) :
    literalText? left id name = literalText? right id name := by
  rw [literalText?, literalText?, same.objectOf?_sh _ single]

theorem isTrue_eq (same : SameFirsts left right) {name : String} (single : name ∈ singleNames)
    (id : Term) : isTrue left id name = isTrue right id name := by
  rw [isTrue, isTrue, same.literalText?_eq single]

theorem wrapper?_eq (same : SameFirsts left right) (node : Term) :
    wrapper? left node = wrapper? right node := by
  have inverse := same.objectOf?_sh "inversePath" (by simp [singleNames]) node
  have zeroOrMore := same.objectOf?_sh "zeroOrMorePath" (by simp [singleNames]) node
  have oneOrMore := same.objectOf?_sh "oneOrMorePath" (by simp [singleNames]) node
  have zeroOrOne := same.objectOf?_sh "zeroOrOnePath" (by simp [singleNames]) node
  simp only [wrapper?, wrappers, List.findSome?_cons, List.findSome?_nil, inverse, zeroOrMore,
    oneOrMore, zeroOrOne]

theorem readPath_eq (same : SameFirsts left right) (levels : Nat) :
    readPath left levels = readPath right levels := by
  induction levels with
  | zero => rfl
  | succ levels ih =>
      funext node
      have first := same.objectOf?_eq (rdf "first") (by simp [singleValued])
      have alternative := same.objectOf?_sh "alternativePath" (by simp [singleNames])
      cases node with
      | iri _ => rfl
      | literal _ => rfl
      | blank _ =>
          simp only [readPath, ih, first, alternative, same.wrapper?_eq, same.readCollection_eq]

theorem readPattern_eq (same : SameFirsts left right) (id : Term) :
    readPattern left id = readPattern right id := by
  rw [readPattern, readPattern, same.literalText?_eq (by simp [singleNames]),
    same.literalText?_eq (by simp [singleNames])]

theorem readClosed_eq (same : SameFirsts left right) (id : Term) :
    readClosed left id = readClosed right id := by
  rw [readClosed, readClosed, same.isTrue_eq (by simp [singleNames]),
    same.objectOf?_sh _ (by simp [singleNames]), same.readCollection_eq]

theorem readSeverity_eq (same : SameFirsts left right) (id : Term) :
    readSeverity left id = readSeverity right id := by
  rw [readSeverity, readSeverity, same.objectOf?_sh _ (by simp [singleNames])]

theorem forFirst_eq (same : SameFirsts left right) {name : String} (single : name ∈ singleNames)
    (id : Term) {make make' : Term → Except Fault Constraint}
    (sameMake : ∀ found, make found = make' found) :
    forFirst left id name make = forFirst right id name make' := by
  rw [forFirst, forFirst, same.objectOf?_sh _ single, funext sameMake]

/-! ## All values -/

theorem hasType_eq (same : SameFirsts left right) (id : Term) (type : Iri) :
    hasType left id type = hasType right id type :=
  (same.triples.objectsOf id (rdf "type")).contains_eq

theorem readTargets_agree (same : SameFirsts left right) (id : Term) :
    Agree List.Perm (readTargets left id) (readTargets right id) := by
  have all := same.triples.objectsOf id
  refine (Agree.mapM_perm _ (all _)).bind fun classes classes' sameClasses => ?_
  refine (Agree.mapM_perm _ (all _)).bind fun subjects subjects' sameSubjects => ?_
  refine (Agree.mapM_perm _ (all _)).bind fun objects objects' sameObjects => .ok ?_
  have named := sameClasses.append ((all (sh "targetNode")).map Target.node)
  refine ((named.append sameSubjects).append sameObjects).append ?_
  simp only [same.hasType_eq]
  exact .refl _

theorem forEach_agree (same : SameFirsts left right) (id : Term) (name : String)
    {make make' : Term → Except Fault Constraint}
    (sameMake : ∀ found, make found = make' found) :
    Agree List.Perm (forEach left id name make) (forEach right id name make') := by
  obtain rfl : make = make' := funext sameMake
  exact .mapM_perm make (same.triples.objectsOf id (sh name))

theorem forPredicates_agree (same : SameFirsts left right) (id : Term) (name : String)
    (make : Iri → Constraint) :
    Agree List.Perm (forPredicates left id name make) (forPredicates right id name make) :=
  same.forEach_agree id name fun _ => rfl

theorem forShapeLists_agree (same : SameFirsts left right) (id : Term) (name : String)
    (make : List Term → Constraint) :
    Agree List.Perm (forShapeLists left id name make) (forShapeLists right id name make) :=
  same.forEach_agree id name fun _ => by rw [same.readCollection_eq]

theorem forFirst_agree (same : SameFirsts left right) {name : String} (single : name ∈ singleNames)
    (id : Term) {make make' : Term → Except Fault Constraint}
    (sameMake : ∀ found, make found = make' found) :
    Agree List.Perm (forFirst left id name make) (forFirst right id name make') :=
  .of_eq .refl (same.forFirst_eq single id sameMake)

theorem objects_agree (same : SameFirsts left right) (id : Term) (predicate : Iri)
    (make : Term → Constraint) :
    Agree List.Perm (.ok ((left.objectsOf id predicate).map make) : Except Fault (List Constraint))
      (.ok ((right.objectsOf id predicate).map make)) :=
  .ok ((same.triples.objectsOf id predicate).map make)

theorem readPropertyPairs_agree (same : SameFirsts left right) (id : Term) (isProperty : Bool) :
    Agree List.Perm (readPropertyPairs left id isProperty)
      (readPropertyPairs right id isProperty) := by
  have pairs := same.forPredicates_agree id
  refine (pairs "equals" .equals).bind fun equals equals' sameEquals => ?_
  refine (pairs "disjoint" .disjoint).bind fun disjoint disjoint' sameDisjoint => ?_
  split
  · refine (pairs "lessThan" .lessThan).bind fun less less' sameLess => ?_
    refine (pairs "lessThanOrEquals" .lessThanOrEquals).bind fun atMost atMost' sameAtMost => ?_
    exact .ok (((sameEquals.append sameDisjoint).append sameLess).append sameAtMost)
  · exact .ok (sameEquals.append sameDisjoint)

theorem forCount_eq (same : SameFirsts left right) {name : String} (single : name ∈ singleNames)
    (id : Term) (make : Nat → Constraint) :
    forCount left id name make = forCount right id name make :=
  same.forFirst_eq single id fun _ => rfl

theorem readCardinality_eq (same : SameFirsts left right) (id : Term) :
    readCardinality left id = readCardinality right id := by
  rw [readCardinality, readCardinality, same.forCount_eq (by simp [singleNames]),
    same.forCount_eq (by simp [singleNames]), same.isTrue_eq (by simp [singleNames])]

theorem constraintGroups_agree (same : SameFirsts left right) (id : Term) (isProperty : Bool) :
    List.Forall₂ (Agree List.Perm) (constraintGroups left id isProperty)
      (constraintGroups right id isProperty) := by
  have nothing : Agree List.Perm (.ok [] : Except Fault (List Constraint)) (.ok []) :=
    .ok (.refl [])
  simp only [constraintGroups, List.forall₂_cons, List.forall₂_nil_left_iff, and_true]
  refine ⟨?classes, ?datatype, ?nodeKind, ?cardinality, ?pairs, ?minInclusive, ?maxInclusive,
    ?minExclusive, ?maxExclusive, ?minLength, ?maxLength, ?pattern, ?languages, ?among, ?hasValue,
    ?node, ?not, ?and, ?or, ?exactlyOne, ?closed⟩
  case classes => exact same.forPredicates_agree id _ _
  case datatype | nodeKind | minInclusive | maxInclusive | minExclusive | maxExclusive | minLength |
      maxLength =>
    exact same.forFirst_agree (by simp [singleNames]) id fun _ => rfl
  case cardinality =>
    split
    · exact .of_eq .refl (same.readCardinality_eq id)
    · exact nothing
  case pairs => exact same.readPropertyPairs_agree id isProperty
  case pattern => exact .of_eq .refl (same.readPattern_eq id)
  case languages | among =>
    exact same.forFirst_agree (by simp [singleNames]) id fun _ => by rw [same.readCollection_eq]
  case hasValue | node | not => exact same.objects_agree id _ _
  case and | or | exactlyOne => exact same.forShapeLists_agree id _ _
  case closed =>
    split
    · exact nothing
    · exact .of_eq .refl (same.readClosed_eq id)

theorem flatten_perm {α : Type} {groups groups' : List (List α)}
    (each : List.Forall₂ List.Perm groups groups') : groups.flatten.Perm groups'.flatten := by
  induction each with
  | nil => exact .refl []
  | cons first _ ih =>
      rw [List.flatten_cons, List.flatten_cons]
      exact first.append ih

theorem readConstraints_agree (same : SameFirsts left right) (id : Term) (isProperty : Bool) :
    Agree List.Perm (readConstraints left id isProperty) (readConstraints right id isProperty) :=
  (Agree.mapM_id (same.constraintGroups_agree id isProperty)).map fun _ _ each => flatten_perm each

theorem readRest_agree (same : SameFirsts left right) (id : Term) {targets targets' : List Target}
    (sameTargets : targets.Perm targets') (path : Option Path) :
    Agree Alike (readRest left id targets path) (readRest right id targets' path) := by
  refine (same.readConstraints_agree id path.isSome).bind fun _ _ sameConstraints => .ok ?_
  exact
    { id_eq := rfl
      targets := sameTargets
      path_eq := rfl
      constraints := sameConstraints
      properties := (same.triples.objectsOf id (sh "property")).filter _
      severity_eq := same.readSeverity_eq id
      message_eq := same.literalText?_eq (by simp [singleNames]) id
      name_eq := same.literalText?_eq (by simp [singleNames]) id
      deactivated_eq := same.isTrue_eq (by simp [singleNames]) id }

theorem ofNode_agree (same : SameFirsts left right) (id : Term) :
    Agree Alike (ofNode left id) (ofNode right id) := by
  refine (same.readTargets_agree id).bind fun targets targets' sameTargets => ?_
  rw [same.objectOf?_sh _ (by simp [singleNames])]
  split
  next node _ =>
    have samePath : Agree Eq (parsePath left node) (parsePath right node) :=
      .of_eq (fun _ => rfl) (by rw [parsePath, parsePath, same.readPath_eq])
    refine samePath.bind ?_
    rintro path _ rfl
    exact same.readRest_agree id sameTargets (some path)
  next => exact same.readRest_agree id sameTargets none

/-! ## All shapes -/

theorem mem_seeds_iff (same : SameFirsts left right) {id : Term} :
    id ∈ seeds left ↔ id ∈ seeds right := by
  rw [seeds, seeds, List.mem_eraseDups, List.mem_eraseDups]
  refine (List.Perm.append (.flatMap_left _ fun type _ => ?_) (.flatMap_left _ fun name _ => ?_)).mem_iff
  · exact (same.triples.subjects _ _).map _
  · exact (same.triples.withPredicate _).map _

theorem described (same : SameFirsts left right) {id : Term} (described : Described left id) :
    Described right id := by
  induction described with
  | seed member => exact .seed (same.mem_seeds_iff.mp member)
  | @reference id referenced shape _ read mentioned ih =>
      have agree := same.ofNode_agree id
      rw [read] at agree
      cases read' : ofNode right id with
      | error fault =>
          rw [read'] at agree
          cases agree
      | ok shape' =>
          rw [read'] at agree
          cases agree with
          | ok like => exact ih.reference read' (like.mem_references_iff.mp mentioned)

theorem get?_alike (same : SameFirsts left right) {shapes shapes' : ShapesGraph}
    (shapesOf : ShapesOf left shapes.shapes) (shapesOf' : ShapesOf right shapes'.shapes) {id : Term}
    {shape : Shape} (found : shapes.get? id = some shape) :
    ∃ shape', shapes'.get? id = some shape' ∧ Alike shape shape' := by
  obtain ⟨described, read⟩ := (ShapesGraph.get?_eq_some_iff shapesOf).mp found
  have described' := same.described described
  obtain ⟨shape', member', rfl⟩ := List.mem_map.mp ((shapesOf'.mem_ids_iff id).mpr described')
  have read' := shapesOf'.read shape' member'
  have agree := same.ofNode_agree shape'.id
  rw [read, read'] at agree
  cases agree with
  | ok like => exact ⟨shape', ShapesGraph.get?_id_of_mem shapesOf' member', like⟩

/-- No shape of the one graph is a fault in the other. -/
theorem readable (same : SameFirsts left right) {shapes : ShapesGraph}
    (shapesOf : ShapesOf left shapes.shapes) {id : Term} (described : Described right id)
    (fault : Fault) : ofNode right id ≠ .error fault := by
  intro unreadable
  have member := (shapesOf.mem_ids_iff id).mpr (same.symm.described described)
  obtain ⟨shape, listed, rfl⟩ := List.mem_map.mp member
  have agree := same.ofNode_agree shape.id
  rw [shapesOf.read shape listed, unreadable] at agree
  cases agree

theorem targeted_perm (same : SameFirsts left right) {shapes shapes' : ShapesGraph}
    (compiled : ShapesGraph.ofGraph left = .ok shapes)
    (compiled' : ShapesGraph.ofGraph right = .ok shapes') :
    shapes.targeted.Perm shapes'.targeted := by
  have shapesOf := (ShapesGraph.ofGraph_eq_ok compiled).1
  have shapesOf' := (ShapesGraph.ofGraph_eq_ok compiled').1
  refine (List.perm_ext_iff_of_nodup (ShapesGraph.nodup_targeted compiled)
    (ShapesGraph.nodup_targeted compiled')).mpr fun id => ?_
  rw [ShapesGraph.mem_targeted_iff compiled, ShapesGraph.mem_targeted_iff compiled']
  constructor
  · rintro ⟨shape, found, targets⟩
    obtain ⟨shape', found', like⟩ := same.get?_alike shapesOf shapesOf' found
    exact ⟨shape', found', like.hasTargets_eq ▸ targets⟩
  · rintro ⟨shape', found', targets⟩
    obtain ⟨shape, found, like⟩ := same.symm.get?_alike shapesOf' shapesOf found'
    exact ⟨shape, found, like.hasTargets_eq ▸ targets⟩

theorem ofGraph_agree (same : SameFirsts left right) :
    Agree ShapesGraph.Alike (ShapesGraph.ofGraph left) (ShapesGraph.ofGraph right) := by
  rcases ShapesGraph.ofGraph_cases left with
    ⟨shapes, compiled, shapesOf, -⟩ | ⟨fault, id, failed, described, unreadable⟩
  · rcases ShapesGraph.ofGraph_cases right with
      ⟨shapes', compiled', shapesOf', -⟩ | ⟨fault, id, -, described, unreadable⟩
    · rw [compiled, compiled']
      refine .ok ⟨fun id => ?_, same.targeted_perm compiled compiled'⟩
      cases found : shapes.get? id with
      | some shape =>
          obtain ⟨shape', found', like⟩ := same.get?_alike shapesOf shapesOf' found
          rw [found']
          exact .some like
      | none =>
          cases found' : shapes'.get? id with
          | none => exact .none
          | some shape' =>
              obtain ⟨shape, foundLeft, -⟩ := same.symm.get?_alike shapesOf' shapesOf found'
              rw [found] at foundLeft
              cases foundLeft
    · exact absurd unreadable (same.readable shapesOf described fault)
  · rcases ShapesGraph.ofGraph_cases right with ⟨shapes', -, shapesOf', -⟩ | ⟨fault', _, failed', -⟩
    · exact absurd unreadable (same.symm.readable shapesOf' described fault)
    · rw [failed, failed']
      exact .error fault fault'

end SameFirsts

/-- Wherever a parameter that is read once has more than one value, let two enumerations of the same
triples list the same one first. Then the shapes of both say the same, if they can be read at all,
and the same data have the same results. -/
theorem ofGraph_of_sameTriples {left right : Graph} (same : left.SameTriples right)
    (firsts : ∀ predicate ∈ singleValued, ∀ node, 1 < (left.objectsOf node predicate).length →
      left.objectOf? node predicate = right.objectOf? node predicate) :
    (∃ fault fault', ShapesGraph.ofGraph left = .error fault ∧
      ShapesGraph.ofGraph right = .error fault') ∨
    ∃ shapes shapes', ShapesGraph.ofGraph left = .ok shapes ∧
      ShapesGraph.ofGraph right = .ok shapes' ∧
      (∀ id, Option.Rel Alike (shapes.get? id) (shapes'.get? id)) ∧
      ∀ (maxDepth : Nat) (data data' : Graph), data.SameTriples data' →
        (validate shapes maxDepth data).results.Perm (validate shapes' maxDepth data').results ∧
        (validate shapes maxDepth data).conforms = (validate shapes' maxDepth data').conforms ∧
        ∀ severity, (validate shapes maxDepth data).count severity =
          (validate shapes' maxDepth data').count severity := by
  have agree := (sameFirsts_of_repeated same firsts).ofGraph_agree
  generalize ShapesGraph.ofGraph left = compiled, ShapesGraph.ofGraph right = compiled' at agree ⊢
  cases agree with
  | error fault fault' => exact .inl ⟨fault, fault', rfl, rfl⟩
  | @ok shapes shapes' alike =>
      refine .inr ⟨shapes, shapes', rfl, rfl, alike.get?, fun maxDepth data data' sameData => ?_⟩
      have permuted := validate_perm sameData alike maxDepth
      exact ⟨permuted, Report.conforms_eq_of_perm permuted, Report.count_eq_of_perm permuted⟩

/-- The nodes of these names know at most so many. -/
def limited (names : List String) (limit : Nat) : Shape :=
  { acquainted with
    targets := names.map fun name => .node (.iri (ex name))
    constraints := [.maxCount limit] }

def targetTriples (names : List String) : List Rdf.Triple :=
  names.map fun name => ⟨.iri (ex "Acquainted"), sh "targetNode", .iri (ex name)⟩

/-- Two limits, of which the first counts. -/
def limits : List Rdf.Triple :=
  [ ⟨.iri (ex "Acquainted"), sh "path", .iri (ex "knows")⟩,
    ⟨.iri (ex "Acquainted"), sh "maxCount", .literal (.typed "1" (xsd "integer"))⟩,
    ⟨.iri (ex "Acquainted"), sh "maxCount", .literal (.typed "0" (xsd "integer"))⟩ ]

/-- The targets may change places with each other and with the limits. -/
theorem ofGraph_of_sameTriples_limits :
    let left := Graph.ofList (targetTriples ["alice", "bob"] ++ limits)
    let right := Graph.ofList (limits ++ targetTriples ["bob", "alice"])
    ∃ shapes shapes', ShapesGraph.ofGraph left = .ok shapes ∧
      ShapesGraph.ofGraph right = .ok shapes' ∧
      shapes.get? acquainted.id = some (limited ["alice", "bob"] 1) ∧
      shapes'.get? acquainted.id = some (limited ["bob", "alice"] 1) ∧
      ∀ maxDepth data,
        (validate shapes maxDepth data).conforms = (validate shapes' maxDepth data).conforms := by
  intro left right
  have same : left.SameTriples right := by decide +kernel
  have atTerms : ∀ predicate ∈ singleValued, ∀ node ∈ left.terms,
      left.objectOf? node predicate = right.objectOf? node predicate := by decide +kernel
  have firsts : ∀ predicate ∈ singleValued, ∀ node, 1 < (left.objectsOf node predicate).length →
      left.objectOf? node predicate = right.objectOf? node predicate := by
    intro predicate single node repeated
    obtain ⟨object, member⟩ := List.exists_mem_of_length_pos (Nat.zero_lt_of_lt repeated)
    exact atTerms predicate single node (Graph.mem_objectsOf_iff.mp member).source_mem_terms
  have compiled : ShapesGraph.ofGraph left =
      .ok ⟨[limited ["alice", "bob"] 1], [acquainted.id]⟩ := by
    with_unfolding_all rfl
  have compiled' : ShapesGraph.ofGraph right =
      .ok ⟨[limited ["bob", "alice"] 1], [acquainted.id]⟩ := by
    with_unfolding_all rfl
  rcases ofGraph_of_sameTriples same firsts with
    ⟨fault, -, failed, -⟩ | ⟨shapes, shapes', read, read', -, reports⟩
  · rw [compiled] at failed
    cases failed
  · obtain rfl := Except.ok.inj (compiled.symm.trans read)
    obtain rfl := Except.ok.inj (compiled'.symm.trans read')
    exact ⟨_, _, compiled, compiled', rfl, rfl,
      fun maxDepth data => (reports maxDepth data data (.refl data)).2.1⟩

/-- With the limits in the other order the same triples are another shape, and Alice, who knows
Bob, does not conform to it. -/
theorem ofGraph_depends_on_first_limit :
    let left := Graph.ofList (targetTriples ["alice"] ++ limits)
    let right := Graph.ofList (targetTriples ["alice"] ++ limits.reverse)
    let data := Graph.ofList [⟨.iri (ex "alice"), ex "knows", .iri (ex "bob")⟩]
    ∃ shapes shapes', left.SameTriples right ∧
      ShapesGraph.ofGraph left = .ok shapes ∧ ShapesGraph.ofGraph right = .ok shapes' ∧
      shapes.get? acquainted.id = some (limited ["alice"] 1) ∧
      shapes'.get? acquainted.id = some (limited ["alice"] 0) ∧
      ¬ (limited ["alice"] 1).constraints.Perm (limited ["alice"] 0).constraints ∧
      (validate shapes 32 data).conforms = true ∧ (validate shapes' 32 data).conforms = false := by
  intro left right data
  have same : left.SameTriples right := by decide +kernel
  have compiled : ShapesGraph.ofGraph left = .ok ⟨[limited ["alice"] 1], [acquainted.id]⟩ := by
    with_unfolding_all rfl
  have compiled' : ShapesGraph.ofGraph right = .ok ⟨[limited ["alice"] 0], [acquainted.id]⟩ := by
    with_unfolding_all rfl
  exact ⟨_, _, same, compiled, compiled', rfl, rfl, by simp [limited], by decide +kernel,
    by decide +kernel⟩

end RdfPipeline.Shape
