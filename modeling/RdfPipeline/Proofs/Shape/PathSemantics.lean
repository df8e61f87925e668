import Mathlib.Data.Set.Card
import RdfPipeline.Proofs.Rdf.Reachability
import RdfPipeline.Shape.Evaluation

/-!
# Paths as relations

A path relates the terms at its two ends. Walking along it, in either direction, leads exactly to
the terms at the other end, and every search on the way ends by itself.
-/

set_option autoImplicit false

namespace RdfPipeline.Shape

open Rdf (Graph Iri Term StepsAlong)
open Relation

namespace Path

/-! ## Meaning -/

mutual

/-- The terms at the two ends of a path. -/
def Relates (graph : Graph) : Path → Term → Term → Prop
  | .predicate iri => graph.Links iri
  | .inverse path => fun source target => Relates graph path target source
  | .sequence parts => RelatesInTurn graph parts
  | .alternative parts => RelatesBySome graph parts
  | .zeroOrMore path => ReflTransGen (Relates graph path)
  | .oneOrMore path => TransGen (Relates graph path)
  | .zeroOrOne path => fun source target => source = target ∨ Relates graph path source target

/-- One part after the other. -/
def RelatesInTurn (graph : Graph) : List Path → Term → Term → Prop
  | [] => fun source target => source = target
  | part :: rest => Comp (Relates graph part) (RelatesInTurn graph rest)

/-- One of the parts. -/
def RelatesBySome (graph : Graph) : List Path → Term → Term → Prop
  | [] => fun _ _ => False
  | part :: rest => fun source target =>
      Relates graph part source target ∨ RelatesBySome graph rest source target

end

/-- A relation, or its converse if it is followed backward. -/
def directed (backward : Bool) (relation : Term → Term → Prop) (source target : Term) : Prop :=
  if backward then relation target source else relation source target

/-! ## Steps along relations -/

section Steps

variable {graph : Graph} {backward : Bool} {relation other : Term → Term → Prop}
  {step further : List Term → List Term}

theorem reflTransGen_directed (relation : Term → Term → Prop) {source target : Term} :
    ReflTransGen (directed backward relation) source target ↔
      directed backward (ReflTransGen relation) source target := by
  cases backward with
  | false => exact Iff.rfl
  | true => exact reflTransGen_swap

theorem transGen_directed (relation : Term → Term → Prop) {source target : Term} :
    TransGen (directed backward relation) source target ↔
      directed backward (TransGen relation) source target := by
  cases backward with
  | false => exact Iff.rfl
  | true => exact transGen_swap

theorem stepsAlong_congr (along : StepsAlong graph step relation)
    (same : ∀ source target, relation source target ↔ other source target) :
    StepsAlong graph step other := by
  obtain rfl : relation = other := by
    funext source target
    exact propext (same source target)
  exact along

theorem stepsAlong_eraseDups (along : StepsAlong graph step relation) :
    StepsAlong graph (fun terms => (step terms).eraseDups) relation :=
  ⟨List.mem_eraseDups.trans along.mem_iff, along.enters⟩

theorem stepsAlong_id :
    StepsAlong graph (fun terms => terms) fun source target => source = target :=
  ⟨by simp, fun same => .inl same.symm⟩

theorem stepsAlong_append (left : StepsAlong graph step relation)
    (right : StepsAlong graph further other) :
    StepsAlong graph (fun terms => step terms ++ further terms) fun source target =>
      relation source target ∨ other source target := by
  refine ⟨fun {terms target} => ?_, fun related => related.elim left.enters right.enters⟩
  rw [List.mem_append, left.mem_iff, right.mem_iff]
  constructor
  · rintro (⟨source, member, related⟩ | ⟨source, member, related⟩)
    · exact ⟨source, member, .inl related⟩
    · exact ⟨source, member, .inr related⟩
  · rintro ⟨source, member, related | related⟩
    · exact .inl ⟨source, member, related⟩
    · exact .inr ⟨source, member, related⟩

theorem stepsAlong_comp (first : StepsAlong graph step relation)
    (second : StepsAlong graph further other) :
    StepsAlong graph (fun terms => further (step terms)) (Comp relation other) := by
  refine ⟨fun {terms target} => ?_, fun {source target} => ?_⟩
  · rw [second.mem_iff]
    constructor
    · rintro ⟨middle, middleMember, onward⟩
      obtain ⟨source, member, related⟩ := first.mem_iff.mp middleMember
      exact ⟨source, member, middle, related, onward⟩
    · rintro ⟨source, member, middle, related, onward⟩
      exact ⟨middle, first.mem_iff.mpr ⟨source, member, related⟩, onward⟩
  · rintro ⟨middle, related, onward⟩
    rcases second.enters onward with rfl | entered
    · exact first.enters related
    · exact .inr entered

/-- One step, and then any number of steps. -/
theorem stepsAlong_reachable (along : StepsAlong graph step relation) :
    StepsAlong graph (fun terms => Rdf.reachable graph step (step terms)) (TransGen relation) := by
  refine ⟨fun {terms target} => ?_, fun {source target} related => ?_⟩
  · rw [along.mem_reachable_iff]
    constructor
    · rintro ⟨first, entered, path⟩
      obtain ⟨source, member, related⟩ := along.mem_iff.mp entered
      exact ⟨source, member, TransGen.head'_iff.mpr ⟨first, related, path⟩⟩
    · rintro ⟨source, member, path⟩
      obtain ⟨first, related, rest⟩ := TransGen.head'_iff.mp path
      exact ⟨first, along.mem_iff.mpr ⟨source, member, related⟩, rest⟩
  · induction related with
    | single related => exact along.enters related
    | tail _ related ih =>
        rcases along.enters related with rfl | entered
        · exact ih
        · exact .inr entered

end Steps

/-! ## Walks -/

theorem neighbours_stepsAlong (graph : Graph) (backward : Bool) (predicate : Iri) :
    StepsAlong graph (neighbours graph backward predicate)
      (directed backward (graph.Links predicate)) := by
  cases backward with
  | false =>
      refine ⟨fun {terms target} => ?_, fun links => .inr links.target_mem_terms⟩
      simp only [neighbours, List.mem_eraseDups, List.mem_flatMap, Bool.false_eq_true, if_false,
        Graph.mem_objectsOf_iff]
      exact Iff.rfl
  | true =>
      refine ⟨fun {terms target} => ?_, fun links => .inr links.source_mem_terms⟩
      simp only [neighbours, List.mem_eraseDups, List.mem_flatMap, if_true,
        Graph.mem_subjects_iff]
      exact Iff.rfl

mutual

/-- Walks go where the path leads. The induction covers both directions at once, as the inverse of a
path is walked the other way. -/
theorem walk_stepsAlong (graph : Graph) : ∀ (path : Path) (backward : Bool),
    StepsAlong graph (walk graph backward path) (directed backward (Relates graph path))
  | .predicate iri, backward => neighbours_stepsAlong graph backward iri
  | .inverse path, backward => by
      refine stepsAlong_congr (walk_stepsAlong graph path (!backward)) fun source target => ?_
      cases backward <;> exact Iff.rfl
  | .sequence parts, false => stepsAlong_eraseDups (walkSequence_stepsAlong graph parts)
  | .sequence parts, true => stepsAlong_eraseDups (walkSequenceBackward_stepsAlong graph parts)
  | .alternative parts, backward =>
      stepsAlong_eraseDups (walkAlternatives_stepsAlong graph parts backward)
  | .zeroOrOne path, backward => by
      refine stepsAlong_eraseDups (stepsAlong_congr
        (stepsAlong_append stepsAlong_id (walk_stepsAlong graph path backward)) ?_)
      intro source target
      cases backward with
      | false => exact Iff.rfl
      | true => exact or_congr_left eq_comm
  | .zeroOrMore path, backward => by
      refine stepsAlong_eraseDups (stepsAlong_congr (stepsAlong_append stepsAlong_id
        (stepsAlong_reachable (walk_stepsAlong graph path backward))) ?_)
      intro source target
      rw [eq_comm, ← reflTransGen_iff_eq_or_transGen, reflTransGen_directed]
      exact Iff.rfl
  | .oneOrMore path, backward => by
      refine stepsAlong_eraseDups (stepsAlong_congr
        (stepsAlong_reachable (walk_stepsAlong graph path backward)) ?_)
      intro source target
      exact transGen_directed _

theorem walkSequence_stepsAlong (graph : Graph) : ∀ parts : List Path,
    StepsAlong graph (walkSequence graph parts) (RelatesInTurn graph parts)
  | [] => stepsAlong_id
  | part :: rest => by
      have composed :=
        stepsAlong_comp (walk_stepsAlong graph part false) (walkSequence_stepsAlong graph rest)
      exact composed

theorem walkSequenceBackward_stepsAlong (graph : Graph) : ∀ parts : List Path,
    StepsAlong graph (walkSequenceBackward graph parts)
      fun source target => RelatesInTurn graph parts target source
  | [] => stepsAlong_congr stepsAlong_id fun _ _ => eq_comm
  | part :: rest => by
      have composed := stepsAlong_comp (walkSequenceBackward_stepsAlong graph rest)
        (walk_stepsAlong graph part true)
      exact stepsAlong_congr composed fun source target => exists_congr fun middle => and_comm

theorem walkAlternatives_stepsAlong (graph : Graph) : ∀ (parts : List Path) (backward : Bool),
    StepsAlong graph (walkAlternatives graph backward parts)
      (directed backward (RelatesBySome graph parts))
  | [], backward => by
      refine ⟨fun {terms target} => ?_, fun {source target} none => ?_⟩
      · cases backward <;> simp [walkAlternatives, directed, RelatesBySome]
      · cases backward <;> exact none.elim
  | part :: rest, backward => by
      refine stepsAlong_congr (stepsAlong_append (walk_stepsAlong graph part backward)
        (walkAlternatives_stepsAlong graph rest backward)) fun source target => ?_
      cases backward <;> exact Iff.rfl

end

theorem nodup_walk (graph : Graph) (terms : List Term) : ∀ (path : Path) (backward : Bool),
    (walk graph backward path terms).Nodup
  | .predicate _, _ => Rdf.nodup_eraseDups _
  | .inverse path, backward => nodup_walk graph terms path (!backward)
  | .sequence _, _ => Rdf.nodup_eraseDups _
  | .alternative _, _ => Rdf.nodup_eraseDups _
  | .zeroOrOne _, _ => Rdf.nodup_eraseDups _
  | .zeroOrMore _, _ => Rdf.nodup_eraseDups _
  | .oneOrMore _, _ => Rdf.nodup_eraseDups _

/-! ## Inversion

Walking a path backward is walking the path that is written the other way round.
-/

mutual

/-- The path from the other end, with inversion only at predicates. -/
def invert : Path → Path
  | .predicate iri => .inverse (.predicate iri)
  | .inverse path => path
  | .sequence parts => .sequence (invertAll parts).reverse
  | .alternative parts => .alternative (invertAll parts)
  | .zeroOrMore path => .zeroOrMore (invert path)
  | .oneOrMore path => .oneOrMore (invert path)
  | .zeroOrOne path => .zeroOrOne (invert path)

def invertAll : List Path → List Path
  | [] => []
  | part :: rest => invert part :: invertAll rest

end

theorem walkSequence_append (graph : Graph) (front rest : List Path) (terms : List Term) :
    walkSequence graph (front ++ rest) terms =
      walkSequence graph rest (walkSequence graph front terms) := by
  induction front generalizing terms with
  | nil => rfl
  | cons part front ih => exact ih _

theorem walkSequenceBackward_append (graph : Graph) (front rest : List Path) (terms : List Term) :
    walkSequenceBackward graph (front ++ rest) terms =
      walkSequenceBackward graph front (walkSequenceBackward graph rest terms) := by
  induction front with
  | nil => rfl
  | cons part front ih => exact congrArg (walk graph true part) ih

mutual

theorem walk_invert (graph : Graph) : ∀ (path : Path) (backward : Bool),
    walk graph backward (invert path) = walk graph (!backward) path
  | .predicate _, _ => rfl
  | .inverse path, backward => by
      simp only [invert, walk, Bool.not_not]
  | .sequence parts, false => by
      funext terms
      simp only [invert, walk, Bool.not_false, if_true, Bool.false_eq_true, if_false,
        walkSequence_invertAll graph parts terms]
  | .sequence parts, true => by
      funext terms
      simp only [invert, walk, Bool.not_true, if_true, Bool.false_eq_true, if_false,
        walkSequenceBackward_invertAll graph parts terms]
  | .alternative parts, backward => by
      funext terms
      simp only [invert, walk, walkAlternatives_invertAll graph parts backward terms]
  | .zeroOrMore path, backward => by
      funext terms
      simp only [invert, walk, walk_invert graph path backward]
  | .oneOrMore path, backward => by
      funext terms
      simp only [invert, walk, walk_invert graph path backward]
  | .zeroOrOne path, backward => by
      funext terms
      simp only [invert, walk, walk_invert graph path backward]

theorem walkSequence_invertAll (graph : Graph) : ∀ (parts : List Path) (terms : List Term),
    walkSequence graph (invertAll parts).reverse terms = walkSequenceBackward graph parts terms
  | [], _ => rfl
  | part :: rest, terms => by
      rw [invertAll, List.reverse_cons, walkSequence_append, walkSequence_invertAll graph rest,
        walkSequence, walkSequence, walk_invert graph part false, walkSequenceBackward]
      rfl

theorem walkSequenceBackward_invertAll (graph : Graph) : ∀ (parts : List Path) (terms : List Term),
    walkSequenceBackward graph (invertAll parts).reverse terms = walkSequence graph parts terms
  | [], _ => rfl
  | part :: rest, terms => by
      rw [invertAll, List.reverse_cons, walkSequenceBackward_append,
        walkSequenceBackward_invertAll graph rest, walkSequenceBackward, walkSequenceBackward,
        walk_invert graph part true, walkSequence]
      rfl

theorem walkAlternatives_invertAll (graph : Graph) :
    ∀ (parts : List Path) (backward : Bool) (terms : List Term),
      walkAlternatives graph backward (invertAll parts) terms =
        walkAlternatives graph (!backward) parts terms
  | [], _, _ => rfl
  | part :: rest, backward, terms => by
      rw [invertAll, walkAlternatives, walkAlternatives, walk_invert graph part backward,
        walkAlternatives_invertAll graph rest backward]

end

/-! ## Values -/

theorem mem_values_iff {graph : Graph} {path : Path} {focus term : Term} :
    term ∈ path.values graph focus ↔ Relates graph path focus term := by
  rw [values, (walk_stepsAlong graph path false).mem_iff]
  simp [directed]

theorem nodup_values (graph : Graph) (path : Path) (focus : Term) :
    (path.values graph focus).Nodup :=
  nodup_walk graph [focus] path false

end Path

theorem ncard_of_nodup {items : List Term} {property : Term → Prop} (distinct : items.Nodup)
    (members : ∀ term, term ∈ items ↔ property term) :
    {term | property term}.ncard = items.length := by
  have same : {term | property term} = (items.toFinset : Set Term) := by
    ext term
    simp [members]
  rw [same, Set.ncard_coe_finset, List.toFinset_card_of_nodup distinct]

theorem unlessHolds_eq_nil_iff {condition : Bool} {message : String} :
    unlessHolds condition message = [] ↔ condition = true := by
  cases condition <;> simp [unlessHolds]

/-- The values of a path are the terms that it relates to the focus node, each once; those of an
inverse path are the values of the inverted one. No search for them is cut short. The bounds on
their number are bounds on the size of that set. -/
theorem Path.values_exact (graph : Graph) (path : Path) (focus : Term) :
    (path.values graph focus).Nodup ∧
    (∀ term, term ∈ path.values graph focus ↔ Relates graph path focus term) ∧
    (∀ inner, path = .inverse inner → path.values graph focus = (invert inner).values graph focus) ∧
    (∀ (part : Path) (backward : Bool) (start : List Term),
      Rdf.Exhausts (walk graph backward part) [] start
        (Rdf.reachable graph (walk graph backward part) start)) ∧
    (∀ (shapes : ShapesGraph) (conforms : Term → Term → Bool) (shape : Shape) (count : Nat),
      shape.path = some path →
        ((Constraint.minCount count).findings graph shapes conforms shape focus
            (valueNodes graph shape focus) = [] ↔
          count ≤ {term | Relates graph path focus term}.ncard) ∧
        ((Constraint.maxCount count).findings graph shapes conforms shape focus
            (valueNodes graph shape focus) = [] ↔
          {term | Relates graph path focus term}.ncard ≤ count)) := by
  refine ⟨nodup_values graph path focus, fun term => mem_values_iff, ?_,
    fun part backward start => (walk_stepsAlong graph part backward).exhausts_reachable start, ?_⟩
  · rintro inner rfl
    rw [values, values, walk_invert graph inner false]
    rfl
  intro shapes conforms shape count hasPath
  have counted : {term | Relates graph path focus term}.ncard = (path.values graph focus).length :=
    ncard_of_nodup (nodup_values graph path focus) fun term => mem_values_iff
  simp only [Constraint.findings, unlessHolds_eq_nil_iff, decide_eq_true_eq, valueNodes, hasPath,
    counted, and_self]

end RdfPipeline.Shape
