import Mathlib.Data.List.Nodup
import RdfPipeline.Proofs.Rdf.Reachability
import RdfPipeline.Proofs.Shape.Reading

/-!
# The shapes that a graph describes

The nodes that are shapes by themselves, and those that a shape refers to, are the shapes of a
graph. Reading them ends with exactly these, or at one of them that cannot be read.
-/

set_option autoImplicit false

namespace RdfPipeline.Shape

open Rdf (Graph Iri Literal Term unseen)

variable {graph : Graph} {id : Term}

/-! ## What a shape refers to -/

/-- The constraints refer to terms of the graph only. -/
def MentionsTerms (graph : Graph) (constraints : List Constraint) : Prop :=
  ∀ constraint ∈ constraints, ∀ mentioned ∈ constraint.references, mentioned ∈ graph.terms

theorem mentionsTerms_nil : MentionsTerms graph [] :=
  fun _ none => absurd none List.not_mem_nil

theorem mentionsTerms_append_iff {left right : List Constraint} :
    MentionsTerms graph (left ++ right) ↔ MentionsTerms graph left ∧ MentionsTerms graph right :=
  List.forall_mem_append

theorem mentionsTerms_singleton_iff {constraint : Constraint} :
    MentionsTerms graph [constraint] ↔
      ∀ mentioned ∈ constraint.references, mentioned ∈ graph.terms := by
  simp [MentionsTerms]

theorem mem_terms_of_mem_objectsOf {source target : Term} {predicate : Iri}
    (member : target ∈ graph.objectsOf source predicate) : target ∈ graph.terms :=
  (Graph.mem_objectsOf_iff.mp member).target_mem_terms

theorem mem_objectsOf_of_objectOf? {source target : Term} {predicate : Iri}
    (first : graph.objectOf? source predicate = some target) :
    target ∈ graph.objectsOf source predicate :=
  List.mem_of_head? first

theorem readCells_terms (fuel : Nat) (visited : List Term) (current : Term) :
    Yields (fun items => ∀ item ∈ items, item ∈ graph.terms)
      (Rdf.readCells graph fuel visited current) := by
  induction fuel generalizing visited current with
  | zero =>
      unfold Rdf.readCells
      split
      · exact .ok (by simp)
      · split
        · exact .error _
        · split
          · exact .error _
          · split <;> exact .error _
  | succ fuel ih =>
      unfold Rdf.readCells
      split
      · exact .ok (by simp)
      · split
        · exact .error _
        · split
          · exact .error _
          next first found =>
            split
            · exact .error _
            · refine (ih _ _).map fun items terms => List.forall_mem_cons.mpr ⟨?_, terms⟩
              exact mem_terms_of_mem_objectsOf (mem_objectsOf_of_objectOf? found)

theorem readCollection_terms (head : Term) :
    Yields (fun items => ∀ item ∈ items, item ∈ graph.terms) (readCollection graph head) :=
  (readCells_terms graph.size [] head).mapError

section Parts

variable {property : String} {make : Term → Except Fault Constraint}

theorem forEach_mentionsTerms
    (each : ∀ found ∈ graph.objectsOf id (sh property),
      Yields (fun constraint => ∀ mentioned ∈ constraint.references, mentioned ∈ graph.terms)
        (make found)) :
    Yields (MentionsTerms graph) (forEach graph id property make) :=
  .mapM each

theorem forFirst_mentionsTerms
    (each : ∀ found, Yields
      (fun constraint => ∀ mentioned ∈ constraint.references, mentioned ∈ graph.terms)
        (make found)) :
    Yields (MentionsTerms graph) (forFirst graph id property make) := by
  unfold forFirst
  split
  next found _ => exact (each found).map fun constraint terms => mentionsTerms_singleton_iff.mpr terms
  next => exact .ok mentionsTerms_nil

theorem map_plain {ε α : Type} {reading : Except ε α} {make : α → Constraint}
    (plain : ∀ value, (make value).references = []) :
    Yields (fun constraint => ∀ mentioned ∈ constraint.references, mentioned ∈ graph.terms)
      (reading.map make) := by
  refine (Yields.any reading).map fun value _ => ?_
  rw [plain value]
  exact fun _ none => absurd none List.not_mem_nil

theorem forPredicates_mentionsTerms {make : Iri → Constraint}
    (plain : ∀ iri, (make iri).references = []) :
    Yields (MentionsTerms graph) (forPredicates graph id property make) :=
  forEach_mentionsTerms fun _ _ => map_plain plain

theorem forCount_mentionsTerms {make : Nat → Constraint}
    (plain : ∀ count, (make count).references = []) :
    Yields (MentionsTerms graph) (forCount graph id property make) :=
  forFirst_mentionsTerms fun _ => map_plain plain

theorem forBound_mentionsTerms {make : Literal → Constraint}
    (plain : ∀ bound, (make bound).references = []) :
    Yields (MentionsTerms graph) (forBound graph id property make) :=
  forFirst_mentionsTerms fun _ => map_plain plain

theorem forShapeLists_mentionsTerms {make : List Term → Constraint}
    (lists : ∀ shapes, (make shapes).references = shapes) :
    Yields (MentionsTerms graph) (forShapeLists graph id property make) := by
  refine forEach_mentionsTerms fun head _ => (readCollection_terms head).map fun shapes terms => ?_
  rw [lists shapes]
  exact terms

theorem objects_mentionsTerms {predicate : Iri} {make : Term → Constraint}
    (single : ∀ term, (make term).references = [] ∨ (make term).references = [term]) :
    MentionsTerms graph ((graph.objectsOf id predicate).map make) := by
  intro constraint member mentioned referenced
  obtain ⟨term, found, rfl⟩ := List.mem_map.mp member
  rcases single term with none | self
  · rw [none] at referenced
    exact absurd referenced List.not_mem_nil
  · rw [self, List.mem_singleton] at referenced
    rw [referenced]
    exact mem_terms_of_mem_objectsOf found

theorem readNodeKind_mentionsTerms : Yields (MentionsTerms graph) (readNodeKind graph id) := by
  refine forFirst_mentionsTerms fun found => ?_
  refine (Yields.any (expectIri id "sh:nodeKind" found)).bind fun iri _ => ?_
  split
  · exact .ok (by simp [Constraint.references])
  · exact .error _

theorem readCardinality_mentionsTerms :
    Yields (MentionsTerms graph) (readCardinality graph id) := by
  refine (forCount_mentionsTerms fun _ => rfl).bind fun least leastTerms => ?_
  refine (forCount_mentionsTerms fun _ => rfl).bind fun most mostTerms => .ok ?_
  refine mentionsTerms_append_iff.mpr ⟨mentionsTerms_append_iff.mpr ⟨leastTerms, mostTerms⟩, ?_⟩
  split
  · exact mentionsTerms_singleton_iff.mpr (by simp [Constraint.references])
  · exact mentionsTerms_nil

theorem readPropertyPairs_mentionsTerms (isProperty : Bool) :
    Yields (MentionsTerms graph) (readPropertyPairs graph id isProperty) := by
  refine (forPredicates_mentionsTerms fun _ => rfl).bind fun equals equalsTerms => ?_
  refine (forPredicates_mentionsTerms fun _ => rfl).bind fun disjoint disjointTerms => ?_
  have both := mentionsTerms_append_iff.mpr ⟨equalsTerms, disjointTerms⟩
  split
  · refine (forPredicates_mentionsTerms fun _ => rfl).bind fun less lessTerms => ?_
    refine (forPredicates_mentionsTerms fun _ => rfl).bind fun atMost atMostTerms => .ok ?_
    exact mentionsTerms_append_iff.mpr
      ⟨mentionsTerms_append_iff.mpr ⟨both, lessTerms⟩, atMostTerms⟩
  · exact .ok both

theorem readPattern_mentionsTerms : Yields (MentionsTerms graph) (readPattern graph id) := by
  unfold readPattern
  split
  · exact .ok mentionsTerms_nil
  · dsimp only
    split
    · exact .ok (mentionsTerms_singleton_iff.mpr (by simp [Constraint.references]))
    · exact .error _

theorem readClosed_mentionsTerms : Yields (MentionsTerms graph) (readClosed graph id) := by
  have plain : ∀ ignored, MentionsTerms graph [.closed ignored] :=
    fun ignored => mentionsTerms_singleton_iff.mpr (by simp [Constraint.references])
  unfold readClosed
  split
  · dsimp only
    split
    next head _ =>
      refine (Yields.any (readCollection graph head)).bind fun terms _ => ?_
      exact (Yields.any _).bind fun ignored _ => .ok (plain ignored)
    next => exact .ok (plain [])
  · exact .ok mentionsTerms_nil

theorem constraintGroups_mentionTerms (isProperty : Bool) :
    ∀ group ∈ constraintGroups graph id isProperty, Yields (MentionsTerms graph) group := by
  simp only [constraintGroups, List.forall_mem_cons]
  refine ⟨?classes, ?datatype, ?nodeKind, ?cardinality, ?pairs, ?minInclusive, ?maxInclusive,
    ?minExclusive, ?maxExclusive, ?minLength, ?maxLength, ?pattern, ?languages, ?among, ?hasValue,
    ?node, ?not, ?and, ?or, ?exactlyOne, ?closed, fun _ none => absurd none List.not_mem_nil⟩
  case classes => exact forPredicates_mentionsTerms fun _ => rfl
  case datatype => exact forFirst_mentionsTerms fun _ => map_plain fun _ => rfl
  case nodeKind => exact readNodeKind_mentionsTerms
  case cardinality =>
    split
    · exact readCardinality_mentionsTerms
    · exact .ok mentionsTerms_nil
  case pairs => exact readPropertyPairs_mentionsTerms isProperty
  case minInclusive | maxInclusive | minExclusive | maxExclusive =>
    exact forBound_mentionsTerms fun _ => rfl
  case minLength | maxLength => exact forCount_mentionsTerms fun _ => rfl
  case pattern => exact readPattern_mentionsTerms
  case languages | among => exact forFirst_mentionsTerms fun _ => map_plain fun _ => rfl
  case hasValue => exact .ok (objects_mentionsTerms fun _ => .inl rfl)
  case node | not => exact .ok (objects_mentionsTerms fun _ => .inr rfl)
  case and | or | exactlyOne => exact forShapeLists_mentionsTerms fun _ => rfl
  case closed =>
    split
    · exact .ok mentionsTerms_nil
    · exact readClosed_mentionsTerms

theorem readConstraints_mentionsTerms (isProperty : Bool) :
    Yields (MentionsTerms graph) (readConstraints graph id isProperty) := by
  refine (Yields.mapM (constraintGroups_mentionTerms isProperty)).map fun groups terms => ?_
  intro constraint member
  obtain ⟨group, groupMember, inGroup⟩ := List.mem_flatten.mp member
  exact terms group groupMember constraint inGroup

end Parts

/-- What is known of a shape that could be read. -/
structure ReadFrom (graph : Graph) (id : Term) (shape : Shape) : Prop where
  id_eq : shape.id = id
  mem_terms : ∀ mentioned ∈ shape.references, mentioned ∈ graph.terms

theorem readRest_readFrom (graph : Graph) (id : Term) (targets : List Target)
    (path : Option Path) : Yields (ReadFrom graph id) (readRest graph id targets path) := by
  refine (readConstraints_mentionsTerms path.isSome).bind fun constraints terms => .ok ⟨rfl, ?_⟩
  intro mentioned member
  rcases List.mem_append.mp member with property | constraint
  · exact mem_terms_of_mem_objectsOf (List.mem_filter.mp property).1
  · obtain ⟨constraint, constraintMember, referenced⟩ := List.mem_flatMap.mp constraint
    exact terms constraint constraintMember mentioned referenced

theorem ofNode_readFrom (graph : Graph) (id : Term) :
    Yields (ReadFrom graph id) (ofNode graph id) := by
  refine (Yields.any (readTargets graph id)).bind fun targets _ => ?_
  split
  next node _ =>
    exact (Yields.any (parsePath graph node)).bind fun path _ =>
      readRest_readFrom graph id targets (some path)
  next => exact readRest_readFrom graph id targets none

/-! ## The shapes of a graph -/

/-- The least set of nodes with the seeds and whatever a shape among them refers to. -/
inductive Described (graph : Graph) : Term → Prop where
  | seed {id : Term} (member : id ∈ seeds graph) : Described graph id
  | reference {id referenced : Term} {shape : Shape} (described : Described graph id)
      (read : ofNode graph id = .ok shape) (mentioned : referenced ∈ shape.references) :
      Described graph referenced

theorem Described.mem_terms (described : Described graph id) : id ∈ graph.terms := by
  cases described with
  | seed member =>
      have ofTriple : ∀ triple ∈ graph.triples, triple.subject.toTerm ∈ graph.terms :=
        fun triple member => List.mem_flatMap.mpr ⟨triple, member, by simp⟩
      simp only [seeds, List.mem_eraseDups, List.mem_append, List.mem_flatMap] at member
      rcases member with ⟨type, -, typed⟩ | ⟨name, -, marked⟩
      · exact (Graph.mem_subjects_iff.mp typed).source_mem_terms
      · obtain ⟨triple, found, rfl⟩ := List.mem_map.mp marked
        exact ofTriple triple (List.mem_filter.mp found).1
  | reference _ read mentioned => exact (ofNode_readFrom graph _ _ read).mem_terms _ mentioned

/-- The shapes are those of the graph, each read once from its node. -/
structure ShapesOf (graph : Graph) (shapes : List Shape) : Prop where
  distinct : (shapes.map (·.id)).Nodup
  mem_ids_iff : ∀ id, id ∈ shapes.map (·.id) ↔ Described graph id
  read : ∀ shape ∈ shapes, ofNode graph shape.id = .ok shape

/-- What holds when a node is taken from the queue: nodes that have been seen are in the queue or
have been read, and what a shape refers to has been seen. -/
structure Queued (graph : Graph) (seen queue : List Term) (shapes : List Shape) : Prop where
  distinct : seen.Nodup
  split : seen.Perm (shapes.map (·.id) ++ queue)
  seeded : ∀ id ∈ seeds graph, id ∈ seen
  described : ∀ id ∈ seen, Described graph id
  read : ∀ shape ∈ shapes, ofNode graph shape.id = .ok shape
  closed : ∀ shape ∈ shapes, ∀ referenced ∈ shape.references, referenced ∈ seen

namespace Queued

variable {seen queue : List Term} {shapes : List Shape} {shape : Shape}

theorem initial (graph : Graph) : Queued graph (seeds graph) (seeds graph) [] where
  distinct := Rdf.nodup_eraseDups _
  split := .refl _
  seeded := fun _ member => member
  described := fun _ member => .seed member
  read := by simp
  closed := by simp

theorem mem_seen (queued : Queued graph seen (id :: queue) shapes) : id ∈ seen :=
  queued.split.mem_iff.mpr (by simp)

theorem next (queued : Queued graph seen (id :: queue) shapes)
    (read : ofNode graph id = .ok shape) :
    Queued graph (seen ++ unseen seen shape.references) (queue ++ unseen seen shape.references)
      (shape :: shapes) := by
  have sameId : shape.id = id := (ofNode_readFrom graph id shape read).id_eq
  have described := queued.described id queued.mem_seen
  refine ⟨Rdf.nodup_append_unseen queued.distinct _, ?_, ?_, ?_, ?_, ?_⟩
  · rw [List.map_cons, sameId, ← List.append_assoc]
    refine List.Perm.append_right _ (queued.split.trans ?_)
    exact List.perm_middle
  · exact fun seed member => List.mem_append_left _ (queued.seeded seed member)
  · intro other member
    rcases List.mem_append.mp member with old | new
    · exact queued.described other old
    · exact described.reference read (Rdf.mem_unseen_iff.mp new).1
  · refine List.forall_mem_cons.mpr ⟨?_, queued.read⟩
    rw [sameId, read]
  · refine List.forall_mem_cons.mpr ⟨?_, ?_⟩
    · intro referenced mentioned
      by_cases old : referenced ∈ seen
      · exact List.mem_append_left _ old
      · exact List.mem_append_right _ (Rdf.mem_unseen_iff.mpr ⟨mentioned, old⟩)
    · exact fun other member referenced mentioned =>
        List.mem_append_left _ (queued.closed other member referenced mentioned)

theorem shapesOf (queued : Queued graph seen [] shapes) : ShapesOf graph shapes.reverse := by
  have ids : ∀ id, id ∈ shapes.map (·.id) ↔ id ∈ seen := by
    intro id
    rw [queued.split.mem_iff, List.append_nil]
  refine ⟨?_, ?_, fun shape member => queued.read shape (List.mem_reverse.mp member)⟩
  · rw [List.map_reverse, List.nodup_reverse]
    exact (queued.split.nodup_iff.mp queued.distinct).of_append_left
  · intro id
    rw [List.map_reverse, List.mem_reverse, ids]
    refine ⟨queued.described id, fun described => ?_⟩
    induction described with
    | seed member => exact queued.seeded _ member
    | @reference id referenced shape _ read mentioned member =>
        obtain ⟨found, foundMember, rfl⟩ := List.mem_map.mp ((ids id).mpr member)
        obtain rfl : found = shape := Except.ok.inj ((queued.read found foundMember).symm.trans read)
        exact queued.closed found foundMember referenced mentioned

/-- Every node in the queue is a term of the graph of its own, so the fuel lasts. -/
theorem length_le (queued : Queued graph seen queue shapes) :
    shapes.length + queue.length ≤ 2 * graph.size := by
  have within : seen ⊆ graph.terms := fun id member => (queued.described id member).mem_terms
  have bounded := queued.distinct.length_le_of_subset within
  have counted := queued.split.length_eq
  rw [List.length_append, List.length_map] at counted
  rwa [counted, Graph.length_terms] at bounded

end Queued

/-- Reading the queue without any bound on the number of shapes: it goes on as long as there are
nodes in the queue, and comes to its end with `outcome`. -/
inductive Drains (graph : Graph) :
    List Term → List Term → List Shape → Except Fault (List Shape) → Prop where
  | done {seen : List Term} {shapes : List Shape} : Drains graph seen [] shapes (.ok shapes.reverse)
  | fault {seen queue : List Term} {shapes : List Shape} {id : Term} {fault : Fault}
      (unreadable : ofNode graph id = .error fault) :
      Drains graph seen (id :: queue) shapes (.error fault)
  | next {seen queue : List Term} {shapes : List Shape} {id : Term} {shape : Shape}
      {outcome : Except Fault (List Shape)} (read : ofNode graph id = .ok shape)
      (further : Drains graph (seen ++ unseen seen shape.references)
        (queue ++ unseen seen shape.references) (shape :: shapes) outcome) :
      Drains graph seen (id :: queue) shapes outcome

/-- The bound on the number of shapes is never what ends the reading. -/
theorem drains_readQueue {fuel : Nat} {seen queue : List Term} {shapes : List Shape}
    (queued : Queued graph seen queue shapes) (enough : 2 * graph.size < fuel + shapes.length) :
    Drains graph seen queue shapes (readQueue graph fuel seen queue shapes) := by
  induction fuel generalizing seen queue shapes with
  | zero =>
      have bounded := queued.length_le
      omega
  | succ fuel ih =>
      cases queue with
      | nil => exact .done
      | cons id queue =>
          cases read : ofNode graph id with
          | error fault =>
              have stopped : readQueue graph (fuel + 1) seen (id :: queue) shapes =
                  .error fault := by
                simp only [readQueue, read]
                rfl
              rw [stopped]
              exact .fault read
          | ok shape =>
              have more : 2 * graph.size < fuel + (shape :: shapes).length := by
                rw [List.length_cons]
                omega
              have continued : readQueue graph (fuel + 1) seen (id :: queue) shapes =
                  readQueue graph fuel (seen ++ unseen seen shape.references)
                    (queue ++ unseen seen shape.references) (shape :: shapes) := by
                simp only [readQueue, read]
                rfl
              rw [continued]
              exact .next read (ih (queued.next read) more)

theorem Drains.cases {seen queue : List Term} {shapes : List Shape}
    {outcome : Except Fault (List Shape)} (drains : Drains graph seen queue shapes outcome)
    (queued : Queued graph seen queue shapes) :
    (∃ all, outcome = .ok all ∧ ShapesOf graph all) ∨
    ∃ fault id, outcome = .error fault ∧ Described graph id ∧ ofNode graph id = .error fault := by
  induction drains with
  | done => exact .inl ⟨_, rfl, queued.shapesOf⟩
  | fault unreadable =>
      exact .inr ⟨_, _, rfl, queued.described _ queued.mem_seen, unreadable⟩
  | next read _ ih => exact ih (queued.next read)

/-- The reading of all shapes, as `ofGraph` starts it. -/
theorem drains_seeds (graph : Graph) :
    Drains graph (seeds graph) (seeds graph) []
      (readQueue graph (2 * graph.size + 1) (seeds graph) (seeds graph) []) := by
  apply drains_readQueue (.initial graph)
  rw [List.length_nil]
  omega

end RdfPipeline.Shape

namespace RdfPipeline.ShapesGraph

open Rdf (Graph Term)
open Shape (Described ShapesOf ofNode)

variable {graph : Graph}

/-- Reading the shapes of a graph ends with all of them, or with the fault of one of them. -/
theorem ofGraph_cases (graph : Graph) :
    (∃ shapes, ofGraph graph = .ok shapes ∧ ShapesOf graph shapes.shapes ∧
      shapes.targeted.Perm ((shapes.shapes.filter Shape.hasTargets).map (·.id))) ∨
    ∃ fault id, ofGraph graph = .error fault ∧ Described graph id ∧
      ofNode graph id = .error fault := by
  rcases (Shape.drains_seeds graph).cases (.initial graph) with
    ⟨all, read, shapesOf⟩ | ⟨fault, id, read, described, unreadable⟩
  · let targeted := (all.filter Shape.hasTargets).map (·.id)
    refine .inl ⟨⟨all, sortByText targeted⟩, ?_, shapesOf, List.mergeSort_perm targeted _⟩
    simp only [ofGraph, read]
    rfl
  · refine .inr ⟨fault, id, ?_, described, unreadable⟩
    simp only [ofGraph, read]
    rfl

theorem ofGraph_eq_ok {shapes : ShapesGraph} (compiled : ofGraph graph = .ok shapes) :
    ShapesOf graph shapes.shapes ∧
      shapes.targeted.Perm ((shapes.shapes.filter Shape.hasTargets).map (·.id)) := by
  rcases ofGraph_cases graph with ⟨all, read, described⟩ | ⟨fault, id, read, -⟩
  · obtain rfl : all = shapes := Except.ok.inj (read.symm.trans compiled)
    exact described
  · rw [compiled] at read
    cases read

theorem get?_eq_some_iff {shapes : ShapesGraph} (shapesOf : ShapesOf graph shapes.shapes)
    {id : Term} {shape : Shape} :
    shapes.get? id = some shape ↔ Described graph id ∧ ofNode graph id = .ok shape := by
  constructor
  · intro found
    have member : shape ∈ shapes.shapes := List.mem_of_find?_eq_some found
    obtain rfl : shape.id = id := id_of_get? found
    exact ⟨(shapesOf.mem_ids_iff shape.id).mp (List.mem_map_of_mem member),
      shapesOf.read shape member⟩
  · rintro ⟨described, read⟩
    obtain ⟨listed, member, rfl⟩ := List.mem_map.mp ((shapesOf.mem_ids_iff id).mpr described)
    obtain rfl : listed = shape := Except.ok.inj ((shapesOf.read listed member).symm.trans read)
    cases found : shapes.get? listed.id with
    | none =>
        have excluded := List.find?_eq_none.mp found listed member
        simp at excluded
    | some other =>
        have sameId : other.id = listed.id := id_of_get? found
        have otherMember : other ∈ shapes.shapes := List.mem_of_find?_eq_some found
        rw [List.inj_on_of_nodup_map shapesOf.distinct otherMember member sameId]

theorem get?_id_of_mem {shapes : ShapesGraph} (shapesOf : ShapesOf graph shapes.shapes)
    {shape : Shape} (member : shape ∈ shapes.shapes) : shapes.get? shape.id = some shape :=
  (get?_eq_some_iff shapesOf).mpr
    ⟨(shapesOf.mem_ids_iff shape.id).mp (List.mem_map_of_mem member), shapesOf.read shape member⟩

/-- Whatever a shape of the graph refers to is a shape of the graph. -/
theorem exists_get?_of_reference {shapes : ShapesGraph} (shapesOf : ShapesOf graph shapes.shapes)
    {shape : Shape} (member : shape ∈ shapes.shapes) {id : Term} (mentioned : id ∈ shape.references) :
    ∃ referenced ∈ shapes.shapes, shapes.get? id = some referenced := by
  have described : Described graph id := .reference
    ((shapesOf.mem_ids_iff shape.id).mp (List.mem_map_of_mem member)) (shapesOf.read shape member)
    mentioned
  obtain ⟨referenced, referencedMember, rfl⟩ := List.mem_map.mp ((shapesOf.mem_ids_iff id).mpr described)
  exact ⟨referenced, referencedMember, get?_id_of_mem shapesOf referencedMember⟩

theorem nodup_targeted {shapes : ShapesGraph} (compiled : ofGraph graph = .ok shapes) :
    shapes.targeted.Nodup := by
  obtain ⟨shapesOf, targeted⟩ := ofGraph_eq_ok compiled
  exact targeted.nodup_iff.mpr (shapesOf.distinct.sublist (List.filter_sublist.map _))

theorem mem_targeted_iff {shapes : ShapesGraph} (compiled : ofGraph graph = .ok shapes) {id : Term} :
    id ∈ shapes.targeted ↔ ∃ shape, shapes.get? id = some shape ∧ shape.hasTargets = true := by
  obtain ⟨shapesOf, targeted⟩ := ofGraph_eq_ok compiled
  rw [targeted.mem_iff, List.mem_map]
  constructor
  · rintro ⟨shape, member, rfl⟩
    obtain ⟨listed, hasTargets⟩ := List.mem_filter.mp member
    exact ⟨shape, get?_id_of_mem shapesOf listed, hasTargets⟩
  · rintro ⟨shape, found, hasTargets⟩
    exact ⟨shape, List.mem_filter.mpr ⟨List.mem_of_find?_eq_some found, hasTargets⟩,
      id_of_get? found⟩

end RdfPipeline.ShapesGraph
