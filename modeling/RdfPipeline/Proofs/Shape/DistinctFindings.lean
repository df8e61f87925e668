import RdfPipeline.Proofs.Rdf.Enumeration
import RdfPipeline.Proofs.Shape.Reading
import RdfPipeline.Proofs.Shape.Satisfaction

/-!
# Findings without repetitions

A constraint that is checked once at a focus node has no two findings with the same value and the
same message. For closed shapes this takes a single value, and only node shapes can be closed.
-/

set_option autoImplicit false

namespace RdfPipeline.Shape

open Rdf (Graph Iri Literal Term)

/-- No two findings have the same value and the same message. -/
def AllDifferent (findings : List Finding) : Prop :=
  (findings.map fun finding => (finding.value, finding.message)).Nodup

theorem AllDifferent.of_values {findings : List Finding}
    (distinct : (findings.map (·.value)).Nodup) : AllDifferent findings := by
  have projected : (findings.map (·.value)) =
      (findings.map fun finding => (finding.value, finding.message)).map Prod.fst := by
    rw [List.map_map]
    rfl
  rw [projected] at distinct
  exact distinct.of_map _

theorem AllDifferent.append {left right : List Finding} (ofLeft : AllDifferent left)
    (ofRight : AllDifferent right)
    (apart : ∀ finding ∈ left, ∀ other ∈ right, finding.message ≠ other.message) :
    AllDifferent (left ++ right) := by
  rw [AllDifferent, List.map_append, List.nodup_append]
  refine ⟨ofLeft, ofRight, ?_⟩
  intro key inLeft other inRight same
  obtain ⟨finding, member, rfl⟩ := List.mem_map.mp inLeft
  obtain ⟨otherFinding, otherMember, rfl⟩ := List.mem_map.mp inRight
  exact apart finding member otherFinding otherMember (congrArg Prod.snd same)

/-! ## Checks -/

section Checks

variable {values : List Term} (distinct : values.Nodup)

include distinct

theorem forValues_allDifferent (passes : Term → Bool) (message : String) :
    AllDifferent (forValues values passes message) := by
  apply AllDifferent.of_values
  rw [forValues, List.map_map]
  exact (distinct.filter _).map fun _ _ => Option.some.inj

/-- A check that has at most one finding for each value, about this value. -/
theorem flatMap_allDifferent {check : Term → List Finding}
    (single : ∀ value, (check value).map (·.value) = [] ∨
      (check value).map (·.value) = [some value]) :
    AllDifferent (values.flatMap check) := by
  apply AllDifferent.of_values
  rw [List.map_flatMap, List.nodup_flatMap]
  constructor
  · intro value _
    rcases single value with none | one
    · rw [none]
      exact .nil
    · rw [one]
      exact List.nodup_singleton _
  · refine distinct.imp ?_
    intro left right different found inLeft inRight
    have aboutValue : ∀ value, found ∈ (check value).map (·.value) → found = some value := by
      intro value member
      rcases single value with none | one
      · rw [none] at member
        cases member
      · rw [one] at member
        exact List.mem_singleton.mp member
    have same := (aboutValue left inLeft).symm.trans (aboutValue right inRight)
    exact different (Option.some.inj same)

theorem checkLength_allDifferent (accepts : Nat → Bool) (message : String) :
    AllDifferent (checkLength values accepts message) := by
  refine flatMap_allDifferent distinct fun value => ?_
  cases stringForm? value with
  | none => exact .inr rfl
  | some text =>
      dsimp only
      split
      · exact .inl rfl
      · exact .inr rfl

theorem checkDatatype_allDifferent (datatype : Iri) :
    AllDifferent (checkDatatype values datatype) := by
  refine flatMap_allDifferent distinct fun value => ?_
  cases value with
  | iri iri => exact .inr rfl
  | blank node => exact .inr rfl
  | literal literal =>
      dsimp only
      split
      · split
        · exact .inl rfl
        · exact .inr rfl
      · exact .inr rfl

theorem checkExactlyOne_allDifferent (conforms : Term → Term → Bool) (shapes : List Term) :
    AllDifferent (checkExactlyOne conforms values shapes) := by
  refine flatMap_allDifferent distinct fun value => ?_
  dsimp only
  split
  · exact .inl rfl
  · exact .inr rfl

/-- The messages about the two sides differ within their first seven characters. -/
theorem checkEquals_allDifferent {others : List Term} (otherDistinct : others.Nodup)
    (predicate : Iri) : AllDifferent (checkEquals values others predicate) := by
  have message_of_mem : ∀ {values : List Term} {passes : Term → Bool} {message : String},
      ∀ finding ∈ forValues values passes message, finding.message = message := by
    intro values passes message finding member
    obtain ⟨value, -, rfl⟩ := List.mem_map.mp member
    rfl
  refine (forValues_allDifferent distinct _ _).append
    (forValues_allDifferent otherDistinct _ _) ?_
  intro finding member other otherMember
  rw [message_of_mem finding member, message_of_mem other otherMember]
  intro same
  have starts := congrArg (fun message : String => message.toList.take 7) same
  simp only [String.toList_append, List.append_assoc] at starts
  rw [List.take_append_of_le_length (by decide), List.take_append_of_le_length (by decide)]
    at starts
  exact absurd starts (by decide)

end Checks

theorem unlessHolds_allDifferent (condition : Bool) (message : String) :
    AllDifferent (unlessHolds condition message) := by
  unfold unlessHolds
  split
  · exact .nil
  · exact List.nodup_singleton _

theorem repeatedLanguages_allDifferent (values : List Term) :
    AllDifferent ((repeatedLanguages values).map fun tag =>
      ⟨none, "Language \"" ++ tag ++ "\" used more than once", none⟩) := by
  have distinct : (repeatedLanguages values).Nodup :=
    (List.mergeSort_perm _ _).nodup_iff.mpr ((Rdf.nodup_eraseDups _).filter _)
  rw [AllDifferent, List.map_map]
  refine distinct.map ?_
  intro tag other same
  have messages := congrArg Prod.snd same
  dsimp only [Function.comp_apply] at messages
  rwa [String.append_left_inj, String.append_right_inj] at messages

theorem checkClosed_allDifferent (graph : Graph) (allowed : List Iri) (value : Term) :
    AllDifferent (checkClosed graph allowed [value]) := by
  rw [AllDifferent, checkClosed, List.flatMap_singleton, List.map_filterMap]
  refine (graph.nodup_outgoing value).filterMap ?_
  rintro ⟨predicate, object⟩ ⟨predicate', object'⟩ key inFirst inSecond
  dsimp only [Option.mem_def] at inFirst inSecond
  split at inFirst
  · cases inFirst
  · split at inSecond
    · cases inSecond
    · have same := inFirst.trans inSecond.symm
      simp only [Option.map_some, Option.some.injEq, Prod.mk.injEq, Rdf.Iri.toText,
        String.append_left_inj, String.append_right_inj] at same
      obtain ⟨rfl, texts⟩ := same
      cases predicate
      cases predicate'
      cases texts
      rfl

/-! ## Constraints -/

def Constraint.isClosed : Constraint → Bool
  | .closed _ => true
  | _ => false

theorem Constraint.findings_allDifferent {graph : Graph} {shapes : ShapesGraph}
    {conforms : Term → Term → Bool} {shape : Shape} {focus : Term} {values : List Term}
    (distinct : values.Nodup) (constraint : Constraint)
    (single : constraint.isClosed = true → ∃ value, values = [value]) :
    AllDifferent (constraint.findings graph shapes conforms shape focus values) := by
  have others := graph.nodup_objectsOf focus
  cases constraint with
  | datatype iri => exact checkDatatype_allDifferent distinct iri
  | minCount count => exact unlessHolds_allDifferent _ _
  | maxCount count => exact unlessHolds_allDifferent _ _
  | hasValue term => exact unlessHolds_allDifferent _ _
  | minLength length => exact checkLength_allDifferent distinct (length ≤ ·) _
  | maxLength length => exact checkLength_allDifferent distinct (· ≤ length) _
  | uniqueLanguage => exact repeatedLanguages_allDifferent values
  | equals predicate => exact checkEquals_allDifferent distinct (others predicate) predicate
  | exactlyOne ids => exact checkExactlyOne_allDifferent distinct _ _
  | closed ignored =>
      obtain ⟨value, rfl⟩ := single rfl
      exact checkClosed_allDifferent graph _ value
  | instanceOf | nodeKind | minInclusive | maxInclusive | minExclusive | maxExclusive | pattern
  | languageIn | disjoint | lessThan | lessThanOrEquals | among | node | not | and | or =>
      exact forValues_allDifferent distinct _ _

/-! ## Compiled shapes -/

/-- What a shape has to be for its checks not to repeat themselves. -/
structure IsProper (shape : Shape) : Prop where
  properties : shape.properties.Nodup
  closed : ∀ constraint ∈ shape.constraints, constraint.isClosed = true → shape.path = none

def NoneClosed (constraints : List Constraint) : Prop :=
  ∀ constraint ∈ constraints, constraint.isClosed = false

section Groups

variable {graph : Graph} {id : Term} {property : String} {make : Term → Except Fault Constraint}

theorem NoneClosed.append {left right : List Constraint} (ofLeft : NoneClosed left)
    (ofRight : NoneClosed right) : NoneClosed (left ++ right) :=
  List.forall_mem_append.mpr ⟨ofLeft, ofRight⟩

theorem NoneClosed.map {α : Type} {items : List α} {make : α → Constraint}
    (plain : ∀ item, (make item).isClosed = false) : NoneClosed (items.map make) :=
  List.forall_mem_map.mpr fun item _ => plain item

theorem map_notClosed {ε α : Type} {reading : Except ε α} {make : α → Constraint}
    (plain : ∀ value, (make value).isClosed = false) :
    Yields (fun constraint => constraint.isClosed = false) (reading.map make) :=
  (Yields.any reading).map fun value _ => plain value

theorem forEach_noneClosed
    (each : ∀ found, Yields (fun constraint => constraint.isClosed = false) (make found)) :
    Yields NoneClosed (forEach graph id property make) :=
  .mapM fun found _ => each found

theorem forFirst_noneClosed
    (each : ∀ found, Yields (fun constraint => constraint.isClosed = false) (make found)) :
    Yields NoneClosed (forFirst graph id property make) := by
  unfold forFirst
  split
  · exact (each _).map fun constraint plain => List.forall_mem_singleton.mpr plain
  · exact .ok nofun

theorem readCardinality_noneClosed : Yields NoneClosed (readCardinality graph id) := by
  refine (forFirst_noneClosed fun _ => map_notClosed fun _ => rfl).bind fun least leastPlain => ?_
  refine (forFirst_noneClosed fun _ => map_notClosed fun _ => rfl).bind fun most mostPlain => .ok ?_
  refine (leastPlain.append mostPlain).append ?_
  split
  · exact List.forall_mem_singleton.mpr rfl
  · exact nofun

theorem readPropertyPairs_noneClosed (isProperty : Bool) :
    Yields NoneClosed (readPropertyPairs graph id isProperty) := by
  refine (forEach_noneClosed fun _ => map_notClosed fun _ => rfl).bind fun equals equalsPlain => ?_
  refine (forEach_noneClosed fun _ => map_notClosed fun _ => rfl).bind
    fun disjoint disjointPlain => ?_
  have both := equalsPlain.append disjointPlain
  split
  · refine (forEach_noneClosed fun _ => map_notClosed fun _ => rfl).bind fun less lessPlain => ?_
    refine (forEach_noneClosed fun _ => map_notClosed fun _ => rfl).bind
      fun atMost atMostPlain => .ok ?_
    exact (both.append lessPlain).append atMostPlain
  · exact .ok both

theorem constraintGroups_noneClosed :
    ∀ group ∈ constraintGroups graph id true, Yields NoneClosed group := by
  simp only [constraintGroups, List.forall_mem_cons, if_true]
  refine ⟨?classes, ?datatype, ?nodeKind, ?cardinality, ?pairs, ?minInclusive, ?maxInclusive,
    ?minExclusive, ?maxExclusive, ?minLength, ?maxLength, ?pattern, ?languages, ?among, ?hasValue,
    ?node, ?not, ?and, ?or, ?exactlyOne, ?closed, nofun⟩
  case classes | and | or | exactlyOne =>
    exact forEach_noneClosed fun _ => map_notClosed fun _ => rfl
  case datatype | minInclusive | maxInclusive | minExclusive | maxExclusive | minLength | maxLength
    | languages | among => exact forFirst_noneClosed fun _ => map_notClosed fun _ => rfl
  case nodeKind =>
    refine forFirst_noneClosed fun found => (Yields.any _).bind fun iri _ => ?_
    split
    · exact .ok rfl
    · exact .error _
  case cardinality => exact readCardinality_noneClosed
  case pairs => exact readPropertyPairs_noneClosed true
  case pattern =>
    unfold readPattern
    split
    · exact .ok nofun
    · dsimp only
      split
      · exact .ok (List.forall_mem_singleton.mpr rfl)
      · exact .error _
  case hasValue | node | not => exact .ok (.map fun _ => rfl)
  case closed => exact .ok nofun

end Groups

theorem readRest_isProper (graph : Graph) (id : Term) (targets : List Target)
    (path : Option Path) : Yields IsProper (readRest graph id targets path) := by
  cases path with
  | none =>
      refine (Yields.any _).bind fun constraints _ => .ok ⟨?_, fun _ _ _ => rfl⟩
      exact (graph.nodup_objectsOf id _).filter _
  | some path =>
      have plain : Yields NoneClosed (readConstraints graph id true) := by
        refine (Yields.mapM constraintGroups_noneClosed).map fun groups plain => ?_
        exact List.forall_mem_flatten.mpr plain
      refine plain.bind fun constraints plain => .ok ⟨?_, fun constraint member closed => ?_⟩
      · exact (graph.nodup_objectsOf id _).filter _
      · rw [plain constraint member] at closed
        cases closed

theorem ofNode_isProper (graph : Graph) (id : Term) : Yields IsProper (ofNode graph id) := by
  refine (Yields.any (readTargets graph id)).bind fun targets _ => ?_
  split
  next node _ =>
    exact (Yields.any (parsePath graph node)).bind fun path _ =>
      readRest_isProper graph id targets (some path)
  next => exact readRest_isProper graph id targets none

end RdfPipeline.Shape
