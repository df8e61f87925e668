import RdfPipeline.Proofs.Shape.PathSemantics

/-!
# What constraints demand

Each constraint is a condition on a focus node and the set of its values. A check finds nothing
exactly if the condition holds, whatever the order in which the values are enumerated.
-/

set_option autoImplicit false

namespace RdfPipeline.Shape

open Rdf (Graph Iri Literal Term StepsAlong rdf)
open Relation

/-! ## Conditions -/

/-- One of the types of the term is the class or a subclass of it, direct or not. -/
def IsInstance (graph : Graph) (term : Term) (iri : Iri) : Prop :=
  ∃ type, graph.Links (rdf "type") term type ∧
    ReflTransGen (graph.Links (rdfs "subClassOf")) type (.iri iri)

/-- The range of all tags, the tag itself in any case, or what it goes on from at a hyphen. -/
def RangeCovers (range tag : String) : Prop :=
  range = "*" ∨ Text.lowerAscii tag = Text.lowerAscii range ∨
    ∃ subtags, Text.lowerAscii tag = Text.lowerAscii range ++ "-" ++ subtags

/-- The kind of the term is among those that the node kind names. -/
def NodeKind.Covers (kind : NodeKind) (term : Term) : Prop :=
  (kind ∈ [.iri, .blankNodeOrIri, .iriOrLiteral] ∧ ∃ iri, term = .iri iri) ∨
  (kind ∈ [.blankNode, .blankNodeOrIri, .blankNodeOrLiteral] ∧ ∃ node, term = .blank node) ∨
  (kind ∈ [.literal, .blankNodeOrLiteral, .iriOrLiteral] ∧ ∃ literal, term = .literal literal)

/-- One place of the list has the property, and no other one has it. -/
def AtExactlyOne (property : Term → Prop) (terms : List Term) : Prop :=
  ∃ before term after, terms = before ++ term :: after ∧ property term ∧
    (∀ other ∈ before, ¬ property other) ∧ ∀ other ∈ after, ¬ property other

/-- The condition of a constraint of a shape on a focus node and the set of its values, given which
terms satisfy the shapes that it refers to. -/
def Constraint.Holds (graph : Graph) (shapes : ShapesGraph) (satisfies : Term → Term → Prop)
    (shape : Shape) (focus : Term) (values : Set Term) : Constraint → Prop
  | .instanceOf iri => ∀ value ∈ values, IsInstance graph value iri
  | .datatype iri => ∀ value ∈ values, ∃ literal : Literal,
      value = .literal literal ∧ literal.datatype = iri ∧ literal.isWellFormed = true
  | .nodeKind kind => ∀ value ∈ values, kind.Covers value
  | .minCount count => count ≤ values.ncard
  | .maxCount count => values.ncard ≤ count
  | .minInclusive bound => ∀ value ∈ values, ∃ order,
      value.compare? (.literal bound) = some order ∧ order ≠ .lt
  | .maxInclusive bound => ∀ value ∈ values, ∃ order,
      value.compare? (.literal bound) = some order ∧ order ≠ .gt
  | .minExclusive bound => ∀ value ∈ values, value.compare? (.literal bound) = some .gt
  | .maxExclusive bound => ∀ value ∈ values, value.compare? (.literal bound) = some .lt
  | .minLength length => ∀ value ∈ values, ∃ text,
      stringForm? value = some text ∧ length ≤ text.length
  | .maxLength length => ∀ value ∈ values, ∃ text,
      stringForm? value = some text ∧ text.length ≤ length
  | .pattern _ _ expression => ∀ value ∈ values, ∃ text,
      stringForm? value = some text ∧ expression.isFoundIn text = true
  | .languageIn ranges => ∀ value ∈ values, ∃ tag,
      languageOf? value = some tag ∧ ∃ range ∈ ranges, RangeCovers range tag
  | .uniqueLanguage => ∀ left ∈ values, ∀ right ∈ values, ∀ leftTag rightTag,
      languageOf? left = some leftTag → languageOf? right = some rightTag →
      Text.lowerAscii leftTag = Text.lowerAscii rightTag → left = right
  | .equals predicate => values = {other | graph.Links predicate focus other}
  | .disjoint predicate => values ∩ {other | graph.Links predicate focus other} = ∅
  | .lessThan predicate => ∀ value ∈ values, ∀ other, graph.Links predicate focus other →
      value.compare? other = some .lt
  | .lessThanOrEquals predicate => ∀ value ∈ values, ∀ other, graph.Links predicate focus other →
      value.compare? other = some .lt ∨ value.compare? other = some .eq
  | .among terms => ∀ value ∈ values, value ∈ terms
  | .hasValue term => term ∈ values
  | .node id => ∀ value ∈ values, satisfies id value
  | .not id => ∀ value ∈ values, ¬ satisfies id value
  | .and ids => ∀ value ∈ values, ∀ id ∈ ids, satisfies id value
  | .or ids => ∀ value ∈ values, ∃ id ∈ ids, satisfies id value
  | .exactlyOne ids => ∀ value ∈ values, AtExactlyOne (satisfies · value) ids
  | .closed ignored => ∀ value ∈ values, ∀ predicate target, graph.Links predicate value target →
      predicate ∈ ignored ∨ ∃ id ∈ shape.properties, ∃ property, shapes.get? id = some property ∧
        property.path = some (.predicate predicate)

/-! ## Checks of single terms -/

/-- The direct superclasses of some classes. -/
def superclassesOf (graph : Graph) (classes : List Term) : List Term :=
  classes.flatMap fun subclass => graph.objectsOf subclass (rdfs "subClassOf")

theorem superclassesOf_stepsAlong (graph : Graph) :
    StepsAlong graph (superclassesOf graph) (graph.Links (rdfs "subClassOf")) := by
  refine ⟨fun {terms target} => ?_, fun links => .inr links.target_mem_terms⟩
  simp only [superclassesOf, List.mem_flatMap, Graph.mem_objectsOf_iff]

theorem isInstanceOf_iff {graph : Graph} {term : Term} {iri : Iri} :
    isInstanceOf graph term iri = true ↔ IsInstance graph term iri := by
  have found : isInstanceOf graph term iri = true ↔
      ∃ type ∈ graph.objectsOf term (rdf "type"),
        ReflTransGen (graph.Links (rdfs "subClassOf")) type (.iri iri) :=
    List.contains_iff_mem.trans (superclassesOf_stepsAlong graph).mem_reachable_iff
  simpa only [IsInstance, Graph.mem_objectsOf_iff] using found

theorem languageMatches_iff {tag range : String} :
    languageMatches tag range = true ↔ RangeCovers range tag := by
  have startsWith_iff : ∀ text start : String,
      text.startsWith start = true ↔ ∃ rest, text = start ++ rest := by
    intro text start
    rw [String.startsWith_string_iff]
    constructor
    · rintro ⟨rest, split⟩
      refine ⟨String.ofList rest, String.toList_injective ?_⟩
      rw [String.toList_append, String.toList_ofList, split]
    · rintro ⟨rest, rfl⟩
      rw [String.toList_append]
      exact List.prefix_append _ _
  simp only [languageMatches, RangeCovers, Bool.or_eq_true, beq_iff_eq, startsWith_iff, or_assoc]

theorem NodeKind.admits_iff {kind : NodeKind} {term : Term} :
    kind.admits term = true ↔ kind.Covers term := by
  cases kind <;> cases term <;> simp [NodeKind.admits, NodeKind.Covers]

/-! ## Checks of lists of values -/

section Checks

variable {values : List Term} {message : String}

theorem forValues_eq_nil_iff {passes : Term → Bool} :
    forValues values passes message = [] ↔ ∀ value ∈ values, passes value = true := by
  simp [forValues, List.filter_eq_nil_iff]

theorem checkRange_eq_nil_iff {bound : Literal} {accepts : Ordering → Bool} :
    checkRange values bound message accepts = [] ↔ ∀ value ∈ values, ∃ order,
      value.compare? (.literal bound) = some order ∧ accepts order = true := by
  rw [checkRange, forValues_eq_nil_iff]
  refine forall₂_congr fun value _ => ?_
  cases value.compare? (.literal bound) <;> simp

theorem checkLength_eq_nil_iff {accepts : Nat → Bool} :
    checkLength values accepts message = [] ↔ ∀ value ∈ values, ∃ text,
      stringForm? value = some text ∧ accepts text.length = true := by
  rw [checkLength, List.flatMap_eq_nil_iff]
  refine forall₂_congr fun value _ => ?_
  cases stringForm? value <;> simp [String.length_toList]

theorem checkDatatype_eq_nil_iff {datatype : Iri} :
    checkDatatype values datatype = [] ↔ ∀ value ∈ values, ∃ literal : Literal,
      value = .literal literal ∧ literal.datatype = datatype ∧ literal.isWellFormed = true := by
  rw [checkDatatype, List.flatMap_eq_nil_iff]
  refine forall₂_congr fun value _ => ?_
  cases value with
  | iri iri => simp
  | blank node => simp
  | literal literal =>
      by_cases sameType : literal.datatype = datatype <;>
        by_cases wellFormed : literal.isWellFormed = true <;>
        simp [sameType, wellFormed]

theorem checkEquals_eq_nil_iff {others : List Term} {predicate : Iri} :
    checkEquals values others predicate = [] ↔ ∀ term, term ∈ values ↔ term ∈ others := by
  simp only [checkEquals, List.append_eq_nil_iff, forValues_eq_nil_iff, List.contains_iff_mem]
  exact ⟨fun both term => ⟨both.1 term, both.2 term⟩,
    fun same => ⟨fun term => (same term).mp, fun term => (same term).mpr⟩⟩

theorem checkClosed_eq_nil_iff {graph : Graph} {allowed : List Iri} :
    checkClosed graph allowed values = [] ↔ ∀ value ∈ values, ∀ predicate target,
      graph.Links predicate value target → predicate ∈ allowed := by
  simp only [checkClosed, List.filterMap_eq_nil_iff, List.mem_flatMap, Prod.forall]
  constructor
  · intro clean value member predicate target links
    have passed := clean predicate target ⟨value, member, Graph.mem_outgoing_iff.mpr links⟩
    by_contra notAllowed
    simp [notAllowed] at passed
  · rintro allAllowed predicate target ⟨value, member, outgoing⟩
    have allowed := allAllowed value member predicate target (Graph.mem_outgoing_iff.mp outgoing)
    simp [allowed]

theorem mem_allowedPredicates_iff {shapes : ShapesGraph} {shape : Shape} {ignored : List Iri}
    {predicate : Iri} :
    predicate ∈ allowedPredicates shapes shape ignored ↔
      predicate ∈ ignored ∨ ∃ id ∈ shape.properties, ∃ property, shapes.get? id = some property ∧
        property.path = some (.predicate predicate) := by
  have plain : ∀ path : Option Path,
      path.bind Path.asPredicate? = some predicate ↔ path = some (.predicate predicate) := by
    intro path
    rcases path with - | (_ | _ | _ | _ | _ | _ | _) <;> simp [Path.asPredicate?]
  simp only [allowedPredicates, List.mem_append, List.mem_filterMap, plain]
  exact or_congr_right
    ⟨fun ⟨property, ⟨id, member, found⟩, path⟩ => ⟨id, member, property, found, path⟩,
      fun ⟨id, member, property, found, path⟩ => ⟨property, ⟨id, member, found⟩, path⟩⟩

theorem length_filter_eq_one_iff {passes : Term → Bool} {terms : List Term} :
    (terms.filter passes).length = 1 ↔ AtExactlyOne (passes · = true) terms := by
  simp only [List.length_eq_one_iff, List.filter_eq_cons_iff, List.filter_eq_nil_iff, AtExactlyOne]
  constructor
  · rintro ⟨term, before, after, split, noneBefore, passed, noneAfter⟩
    exact ⟨before, term, after, split, passed, noneBefore, noneAfter⟩
  · rintro ⟨before, term, after, split, passed, noneBefore, noneAfter⟩
    exact ⟨term, before, after, split, noneBefore, passed, noneAfter⟩

theorem atExactlyOne_congr {left right : Term → Prop} {terms : List Term}
    (same : ∀ term ∈ terms, left term ↔ right term) :
    AtExactlyOne left terms ↔ AtExactlyOne right terms := by
  refine exists_congr fun before => exists_congr fun term => exists_congr fun after => ?_
  refine and_congr_right ?_
  rintro rfl
  refine and_congr (same term (by simp)) (and_congr ?_ ?_)
  · exact forall₂_congr fun other member => not_congr (same other (by simp [member]))
  · exact forall₂_congr fun other member => not_congr (same other (by simp [member]))

theorem checkExactlyOne_eq_nil_iff {conforms : Term → Term → Bool} {ids : List Term} :
    checkExactlyOne conforms values ids = [] ↔
      ∀ value ∈ values, AtExactlyOne (conforms value · = true) ids := by
  rw [checkExactlyOne, List.flatMap_eq_nil_iff]
  refine forall₂_congr fun value _ => ?_
  rw [← length_filter_eq_one_iff]
  by_cases one : (ids.filter (conforms value)).length = 1 <;> simp [one]

/-- The labels that a list without repetitions carries are without repetitions if no two of its
items share one. -/
theorem nodup_filterMap_iff {α : Type} {label : Term → Option α} (distinct : values.Nodup) :
    (values.filterMap label).Nodup ↔ ∀ left ∈ values, ∀ right ∈ values, ∀ shared,
      label left = some shared → label right = some shared → left = right := by
  induction values with
  | nil => simp
  | cons first rest ih =>
      obtain ⟨firstNew, restDistinct⟩ := List.nodup_cons.mp distinct
      cases firstLabel : label first with
      | none =>
          rw [List.filterMap_cons_none firstLabel, ih restDistinct]
          simp [firstLabel]
      | some mark =>
          rw [List.filterMap_cons_some firstLabel, List.nodup_cons, ih restDistinct]
          simp only [List.mem_filterMap, not_exists, not_and, List.forall_mem_cons, firstLabel,
            Option.some.injEq]
          constructor
          · rintro ⟨unshared, distinctRest⟩
            refine ⟨⟨fun _ _ _ => trivial, ?_⟩, fun left leftMember => ⟨?_, ?_⟩⟩
            · rintro right member _ rfl same
              exact absurd same (unshared right member)
            · rintro _ same rfl
              exact absurd same (unshared left leftMember)
            · exact distinctRest left leftMember
          · rintro ⟨⟨-, firstApart⟩, restApart⟩
            refine ⟨?_, fun left leftMember => (restApart left leftMember).2⟩
            intro right member same
            exact firstNew (firstApart right member mark rfl same ▸ member)

theorem repeatedLanguages_eq_nil_iff (distinct : values.Nodup) :
    repeatedLanguages values = [] ↔ ∀ left ∈ values, ∀ right ∈ values, ∀ leftTag rightTag,
      languageOf? left = some leftTag → languageOf? right = some rightTag →
      Text.lowerAscii leftTag = Text.lowerAscii rightTag → left = right := by
  have counted : repeatedLanguages values = [] ↔
      ((values.filterMap languageOf?).map Text.lowerAscii).Nodup := by
    rw [List.nodup_iff_count_le_one, repeatedLanguages, ← List.length_eq_zero_iff,
      List.length_mergeSort, List.length_eq_zero_iff, List.filter_eq_nil_iff]
    simp only [List.mem_eraseDups, decide_eq_true_eq, Nat.not_lt]
    refine forall_congr' fun tag => ⟨fun once => ?_, fun once _ => once⟩
    by_cases used : tag ∈ (values.filterMap languageOf?).map Text.lowerAscii
    · exact once used
    · exact (List.count_eq_zero.mpr used).trans_le (Nat.zero_le 1)
  rw [counted, List.map_filterMap, nodup_filterMap_iff distinct]
  simp only [Option.map_eq_some_iff]
  refine forall₂_congr fun left _ => forall₂_congr fun right _ => ?_
  constructor
  · intro apart leftTag rightTag leftHas rightHas same
    exact apart _ ⟨leftTag, leftHas, same⟩ ⟨rightTag, rightHas, rfl⟩
  · rintro apart _ ⟨leftTag, leftHas, rfl⟩ ⟨rightTag, rightHas, same⟩
    exact apart leftTag rightTag leftHas rightHas same.symm

end Checks

/-! ## Constraints -/

/-- A constraint has no findings exactly if its condition holds of the set of the values. Of the
shapes that it refers to it only matters which terms satisfy them. -/
theorem Constraint.findings_eq_nil_iff {graph : Graph} {shapes : ShapesGraph}
    {conforms : Term → Term → Bool} {satisfies : Term → Term → Prop} {shape : Shape} {focus : Term}
    {values : List Term} (distinct : values.Nodup) (constraint : Constraint)
    (agree : ∀ id ∈ constraint.references, ∀ value,
      conforms value id = true ↔ satisfies id value) :
    constraint.findings graph shapes conforms shape focus values = [] ↔
      constraint.Holds graph shapes satisfies shape focus {value | value ∈ values} := by
  have counted : {value | value ∈ values}.ncard = values.length :=
    ncard_of_nodup distinct fun _ => Iff.rfl
  cases constraint with
  | instanceOf iri => simp only [findings, forValues_eq_nil_iff, isInstanceOf_iff]; exact Iff.rfl
  | datatype iri => exact checkDatatype_eq_nil_iff
  | nodeKind kind => simp only [findings, forValues_eq_nil_iff, NodeKind.admits_iff]; exact Iff.rfl
  | minCount count =>
      simp only [findings, unlessHolds_eq_nil_iff, decide_eq_true_eq, Holds, counted]
  | maxCount count =>
      simp only [findings, unlessHolds_eq_nil_iff, decide_eq_true_eq, Holds, counted]
  | minInclusive bound =>
      simp only [findings, checkRange_eq_nil_iff, bne_iff_ne, Holds, Set.mem_ofPred_eq]
  | maxInclusive bound =>
      simp only [findings, checkRange_eq_nil_iff, bne_iff_ne, Holds, Set.mem_ofPred_eq]
  | minExclusive bound =>
      simp only [findings, checkRange_eq_nil_iff, beq_iff_eq, Holds, Set.mem_ofPred_eq,
        exists_eq_right]
  | maxExclusive bound =>
      simp only [findings, checkRange_eq_nil_iff, beq_iff_eq, Holds, Set.mem_ofPred_eq,
        exists_eq_right]
  | minLength length =>
      simp only [findings, checkLength_eq_nil_iff, decide_eq_true_eq, Holds, Set.mem_ofPred_eq]
  | maxLength length =>
      simp only [findings, checkLength_eq_nil_iff, decide_eq_true_eq, Holds, Set.mem_ofPred_eq]
  | pattern source flags expression =>
      simp only [findings, forValues_eq_nil_iff, Holds, Set.mem_ofPred_eq]
      refine forall₂_congr fun value _ => ?_
      cases stringForm? value <;> simp
  | languageIn ranges =>
      simp only [findings, forValues_eq_nil_iff, Holds, Set.mem_ofPred_eq]
      refine forall₂_congr fun value _ => ?_
      cases languageOf? value <;> simp [languageMatches_iff]
  | uniqueLanguage =>
      simp only [findings, List.map_eq_nil_iff, repeatedLanguages_eq_nil_iff distinct]
      exact Iff.rfl
  | equals predicate =>
      simp only [findings, checkEquals_eq_nil_iff, Graph.mem_objectsOf_iff, Holds, Set.ext_iff,
        Set.mem_ofPred_eq]
  | disjoint predicate =>
      simp only [findings, forValues_eq_nil_iff, Bool.not_eq_true', ← Bool.not_eq_true,
        List.contains_iff_mem, Graph.mem_objectsOf_iff, Holds, Set.eq_empty_iff_forall_notMem,
        Set.mem_inter_iff, Set.mem_ofPred_eq, not_and]
  | lessThan predicate =>
      simp only [findings, forValues_eq_nil_iff, List.all_eq_true, Graph.mem_objectsOf_iff,
        beq_iff_eq, Holds, Set.mem_ofPred_eq]
  | lessThanOrEquals predicate =>
      simp only [findings, forValues_eq_nil_iff, List.all_eq_true, Graph.mem_objectsOf_iff,
        Bool.or_eq_true, beq_iff_eq, Holds, Set.mem_ofPred_eq]
  | among terms =>
      simp only [findings, forValues_eq_nil_iff, List.contains_iff_mem, Holds, Set.mem_ofPred_eq]
  | hasValue term =>
      simp only [findings, unlessHolds_eq_nil_iff, List.contains_iff_mem, Holds, Set.mem_ofPred_eq]
  | node id =>
      have one := agree id (by simp [references])
      simp only [findings, forValues_eq_nil_iff, one, Holds, Set.mem_ofPred_eq]
  | not id =>
      have one := agree id (by simp [references])
      simp only [findings, forValues_eq_nil_iff, Bool.not_eq_true', ← Bool.not_eq_true, one, Holds,
        Set.mem_ofPred_eq]
  | and ids =>
      simp only [findings, forValues_eq_nil_iff, List.all_eq_true, Holds, Set.mem_ofPred_eq]
      exact forall₂_congr fun value _ => forall₂_congr fun id member => agree id member value
  | or ids =>
      simp only [findings, forValues_eq_nil_iff, List.any_eq_true, Holds, Set.mem_ofPred_eq]
      exact forall₂_congr fun value _ => exists_congr fun id =>
        and_congr_right fun member => agree id member value
  | exactlyOne ids =>
      simp only [findings, checkExactlyOne_eq_nil_iff, Holds, Set.mem_ofPred_eq]
      exact forall₂_congr fun value _ => atExactlyOne_congr fun id member => agree id member value
  | closed ignored =>
      simp only [findings, checkClosed_eq_nil_iff, mem_allowedPredicates_iff, Holds,
        Set.mem_ofPred_eq]

/-- Of what conforms to which shape, a constraint sees as much as it refers to. -/
theorem Constraint.findings_congr {graph : Graph} {shapes : ShapesGraph}
    {conforms conforms' : Term → Term → Bool} {shape : Shape} {focus : Term} {values : List Term}
    (constraint : Constraint)
    (agree : ∀ id ∈ constraint.references, ∀ value, conforms value id = conforms' value id) :
    constraint.findings graph shapes conforms shape focus values =
      constraint.findings graph shapes conforms' shape focus values := by
  cases constraint with
  | node id =>
      have one : ∀ value, conforms value id = conforms' value id := agree id (by simp [references])
      simp only [findings, one]
  | not id =>
      have one : ∀ value, conforms value id = conforms' value id := agree id (by simp [references])
      simp only [findings, one]
  | and ids =>
      have every : ∀ value, ids.all (conforms value) = ids.all (conforms' value) := by
        intro value
        rw [Bool.eq_iff_iff, List.all_eq_true, List.all_eq_true]
        exact forall₂_congr fun id member => by rw [agree id member value]
      simp only [findings, every]
  | or ids =>
      have any : ∀ value, ids.any (conforms value) = ids.any (conforms' value) := by
        intro value
        rw [Bool.eq_iff_iff, List.any_eq_true, List.any_eq_true]
        exact exists_congr fun id => and_congr_right fun member => by rw [agree id member value]
      simp only [findings, any]
  | exactlyOne ids =>
      have conforming : ∀ value, ids.filter (conforms value) = ids.filter (conforms' value) :=
        fun value => List.filter_congr fun id member => agree id member value
      simp only [findings, checkExactlyOne, conforming]
  | _ => rfl

end RdfPipeline.Shape
