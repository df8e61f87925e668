import Mathlib.Algebra.GroupWithZero.Nat
import RdfPipeline.Proofs.Rdf.Enumeration
import RdfPipeline.Proofs.Shape.PathEncoding
import RdfPipeline.Shape.Report

/-!
# Reports read back from their graphs

Every result of a report has a node of its own in the graph of the report, with one triple for each
thing that the result says. So the graph has a size that the results determine, and a reader that
knows the vocabulary alone finds the verdict and all results again, equal ones as often as they are
in the report.
-/

set_option autoImplicit false

namespace RdfPipeline.Shape

open Rdf (Graph Iri Literal Subject Term Triple rdf)

/-! ## Reading -/

/-- What the graph of a report says about one result: a path is named if it is a plain predicate,
and described by its text otherwise. -/
structure Entry where
  severity : Severity
  focusNode : Term
  path : Option (Iri ⊕ String)
  value : Option Term
  message : String
  component : Iri
  shape : Term
  deriving DecidableEq

def Result.entry (result : Result) : Entry where
  severity := result.severity
  focusNode := result.focusNode
  path := result.path.map fun path =>
    match path.asPredicate? with
    | some iri => .inl iri
    | none => .inr path.toText
  value := result.value
  message := result.message
  component := result.component
  shape := result.shape

def Severity.ofTerm? (term : Term) : Option Severity :=
  [Severity.info, .warning, .violation].find? fun severity => .iri severity.iri = term

def readPath? : Term → Option (Iri ⊕ String)
  | .iri iri => some (.inl iri)
  | .literal literal => some (.inr literal.lexical)
  | .blank _ => none

def readFlag? (term : Term) : Option Bool :=
  [true, false].find? fun flag => .literal (.ofBool flag) = term

/-- The result that a node describes. -/
def Entry.read? (graph : Graph) (node : Term) : Option Entry := do
  let severity ← graph.objectOf? node (sh "resultSeverity")
  let focusNode ← graph.objectOf? node (sh "focusNode")
  let message ← graph.objectOf? node (sh "resultMessage")
  let component ← graph.objectOf? node (sh "sourceConstraintComponent")
  let shape ← graph.objectOf? node (sh "sourceShape")
  return {
    severity := ← Severity.ofTerm? severity
    focusNode
    path := (graph.objectOf? node (sh "resultPath")).bind readPath?
    value := graph.objectOf? node (sh "value")
    message := ← message.lexical?
    component := ← component.asIri?
    shape }

/-- The verdict and the results of the report that the graph describes. -/
def readReport? (graph : Graph) : Option (Bool × List Entry) := do
  let report ←
    ((graph.subjects (rdf "type") (.iri (sh "ValidationReport"))).map Subject.toTerm).head?
  let flag ← graph.objectOf? report (sh "conforms")
  return (← readFlag? flag, ← (graph.objectsOf report (sh "result")).mapM (Entry.read? graph))

theorem Severity.ofTerm?_iri (severity : Severity) :
    Severity.ofTerm? (.iri severity.iri) = some severity := by
  cases severity <;> decide +kernel

theorem readFlag?_ofBool (flag : Bool) : readFlag? (.literal (.ofBool flag)) = some flag := by
  cases flag <;> decide +kernel

theorem readPath?_toObject (path : Path) : readPath? path.toObject =
    some (match path.asPredicate? with
      | some iri => .inl iri
      | none => .inr path.toText) := by
  unfold Path.toObject
  cases path.asPredicate? <;> rfl

/-! ## What a result says -/

/-- The predicates and objects of the triples about a result. -/
def Result.statements (result : Result) : List (Iri × Term) :=
  [ (rdf "type", .iri (sh "ValidationResult")),
    (sh "resultSeverity", .iri result.severity.iri),
    (sh "focusNode", result.focusNode) ] ++
  (result.path.map fun path => (sh "resultPath", path.toObject)).toList ++
  (result.value.map fun value => (sh "value", value)).toList ++
  [ (sh "resultMessage", .literal (.plain result.message)),
    (sh "sourceConstraintComponent", .iri result.component),
    (sh "sourceShape", result.shape) ]

namespace Result

theorem triples_eq (result : Result) (node : Subject) :
    result.triples node =
      result.statements.map fun statement => ⟨node, statement.1, statement.2⟩ := by
  unfold triples statements
  cases result.path <;> cases result.value <;> rfl

/-- The predicates under which results say something. -/
def predicates : List Iri :=
  [ rdf "type", sh "resultSeverity", sh "focusNode", sh "resultPath", sh "value",
    sh "resultMessage", sh "sourceConstraintComponent", sh "sourceShape" ]

theorem statements_sublist (result : Result) :
    (result.statements.map Prod.fst).Sublist predicates := by
  unfold statements predicates
  cases result.path <;> cases result.value <;> simp

theorem nodup_statements (result : Result) : (result.statements.map Prod.fst).Nodup :=
  result.statements_sublist.nodup (by decide +kernel)

theorem length_statements (result : Result) :
    result.statements.length = 6 + result.path.isSome.toNat + result.value.isSome.toNat := by
  unfold statements
  cases result.path <;> cases result.value <;> rfl

theorem statement_unique {result : Result} {predicate : Iri} {object other : Term}
    (said : (predicate, object) ∈ result.statements)
    (otherSaid : (predicate, other) ∈ result.statements) : other = object :=
  congrArg Prod.snd (List.inj_on_of_nodup_map result.nodup_statements otherSaid said rfl)

theorem statement_path_iff {result : Result} {object : Term} :
    (sh "resultPath", object) ∈ result.statements ↔
      result.path.map Path.toObject = some object := by
  unfold statements
  cases result.path <;> simp [sh_inj, sh_ne_rdf, eq_comm (a := object)]

theorem statement_value_iff {result : Result} {object : Term} :
    (sh "value", object) ∈ result.statements ↔ result.value = some object := by
  unfold statements
  cases result.value <;> simp [sh_inj, sh_ne_rdf, eq_comm (a := object)]

end Result

/-! ## The triples of a report -/

theorem map_zipIdx {α : Type} (results : List Result) (start : Nat) (f : Result → α) :
    ((results.zipIdx start).map fun numbered => f numbered.1) = results.map f := by
  conv_rhs => rw [← List.zipIdx_map_fst start results, List.map_map]
  rfl

/-- The link to a result with an index, and the triples about it. -/
def linkedTriples (report : Subject) (numbered : Result × Nat) : List Triple :=
  ⟨report, sh "result", .blank (.fresh numbered.2)⟩ ::
    numbered.1.triples (.blank (.fresh numbered.2))

theorem resultTriples_eq (report : Subject) (supply : Nat) (results : List Result) :
    resultTriples report supply results =
      (results.zipIdx supply).flatMap (linkedTriples report) := by
  induction results generalizing supply with
  | nil => rfl
  | cons result rest ih =>
      rw [resultTriples, ih, List.zipIdx_cons, List.flatMap_cons]
      rfl

theorem mem_linkedTriples_iff {report : Subject} {numbered : Result × Nat} {triple : Triple} :
    triple ∈ linkedTriples report numbered ↔
      triple = ⟨report, sh "result", .blank (.fresh numbered.2)⟩ ∨
        triple.subject = .blank (.fresh numbered.2) ∧
          (triple.predicate, triple.object) ∈ numbered.1.statements := by
  rw [linkedTriples, List.mem_cons, Result.triples_eq, List.mem_map]
  refine or_congr_right ⟨?_, ?_⟩
  · rintro ⟨statement, member, rfl⟩
    exact ⟨rfl, member⟩
  · rintro ⟨subject, member⟩
    exact ⟨_, member, by rw [← subject]⟩

theorem length_linkedTriples (report : Subject) (numbered : Result × Nat) :
    (linkedTriples report numbered).length =
      7 + numbered.1.path.isSome.toNat + numbered.1.value.isSome.toNat := by
  rw [linkedTriples, Result.triples_eq, List.length_cons, List.length_map,
    Result.length_statements]
  omega

/-- No result links to another result. -/
theorem filter_linkedTriples (report : Subject) (numbered : Result × Nat) :
    (linkedTriples report numbered).filter (·.predicate = sh "result") =
      [⟨report, sh "result", .blank (.fresh numbered.2)⟩] := by
  rw [linkedTriples, List.filter_cons_of_pos (by simp), Result.triples_eq,
    List.filter_eq_nil_iff.mpr]
  intro triple member
  obtain ⟨statement, said, rfl⟩ := List.mem_map.mp member
  have known : statement.1 ∈ Result.predicates :=
    numbered.1.statements_sublist.subset (List.mem_map_of_mem said)
  have noLink : ∀ predicate ∈ Result.predicates, predicate ≠ sh "result" := by decide +kernel
  simpa using noLink _ known

section Results

variable {report : Subject} {supply : Nat} (results : List Result)
  (apart : ∀ index, supply ≤ index → report ≠ .blank (.fresh index))

theorem length_resultTriples :
    (resultTriples report supply results).length =
      (results.map fun result => 7 + result.path.isSome.toNat + result.value.isSome.toNat).sum := by
  rw [resultTriples_eq, List.length_flatMap, ← map_zipIdx results supply]
  simp only [length_linkedTriples]

theorem length_filter_resultTriples :
    ((resultTriples report supply results).filter (·.predicate = sh "result")).length =
      results.length := by
  rw [resultTriples_eq, List.filter_flatMap]
  simp only [filter_linkedTriples]
  simp

include apart

theorem nodup_linkedTriples {numbered : Result × Nat} (above : supply ≤ numbered.2) :
    (linkedTriples report numbered).Nodup := by
  rw [linkedTriples, Result.triples_eq]
  refine List.nodup_cons.mpr ⟨?_, ?_⟩
  · intro member
    obtain ⟨statement, -, same⟩ := List.mem_map.mp member
    exact apart _ above (congrArg Triple.subject same).symm
  · refine (List.Nodup.of_map _ numbered.1.nodup_statements).map ?_
    rintro ⟨predicate, object⟩ ⟨predicate', object'⟩ same
    cases same
    rfl

theorem disjoint_linkedTriples {left right : Result × Nat} (aboveLeft : supply ≤ left.2)
    (aboveRight : supply ≤ right.2) (different : left.2 ≠ right.2) :
    (linkedTriples report left).Disjoint (linkedTriples report right) := by
  intro triple inLeft inRight
  rcases mem_linkedTriples_iff.mp inLeft with rfl | ⟨subject, -⟩
  · rcases mem_linkedTriples_iff.mp inRight with same | ⟨subject, -⟩
    · exact different (by simpa using same)
    · exact apart _ aboveRight subject
  · rcases mem_linkedTriples_iff.mp inRight with rfl | ⟨subject', -⟩
    · exact apart _ aboveLeft subject
    · exact different (by simpa using subject.symm.trans subject')

theorem nodup_resultTriples : (resultTriples report supply results).Nodup := by
  have above : ∀ numbered ∈ results.zipIdx supply, supply ≤ numbered.2 :=
    fun _ member => List.le_snd_of_mem_zipIdx member
  rw [resultTriples_eq, List.nodup_flatMap]
  refine ⟨fun numbered member => nodup_linkedTriples apart (above numbered member), ?_⟩
  refine (Rdf.pairwise_zipIdx results supply).imp_of_mem ?_
  intro left right inLeft inRight different
  exact disjoint_linkedTriples apart (above left inLeft) (above right inRight) different

end Results

/-! ## The graph of a report -/

namespace Report

/-- All triples that describe a report whose node is given. -/
def allTriples (report : Report) (supply : Nat) : List Triple :=
  let node : Subject := .blank (.fresh supply)
  ⟨node, rdf "type", .iri (sh "ValidationReport")⟩ ::
    ⟨node, sh "conforms", .literal (.ofBool report.conforms)⟩ ::
    resultTriples node (supply + 1) report.results

/-- The nodes of the results, in their order. -/
def resultNodes (report : Report) (supply : Nat) : List Term :=
  (report.results.zipIdx (supply + 1)).map fun numbered => .blank (.fresh numbered.2)

theorem nodup_resultNodes (report : Report) (supply : Nat) : (report.resultNodes supply).Nodup := by
  refine List.pairwise_map.mpr ((Rdf.pairwise_zipIdx _ _).imp ?_)
  intro left right different same
  exact different (by simpa using same)

theorem apart_of_lt {supply : Nat} (index : Nat) (above : supply + 1 ≤ index) :
    Subject.blank (.fresh supply) ≠ .blank (.fresh index) := by
  intro same
  exact Nat.ne_of_lt above (by simpa using same)

theorem mem_allTriples_iff {report : Report} {supply : Nat} {triple : Triple} :
    triple ∈ report.allTriples supply ↔
      triple = ⟨.blank (.fresh supply), rdf "type", .iri (sh "ValidationReport")⟩ ∨
      triple = ⟨.blank (.fresh supply), sh "conforms", .literal (.ofBool report.conforms)⟩ ∨
      ∃ numbered ∈ report.results.zipIdx (supply + 1),
        triple = ⟨.blank (.fresh supply), sh "result", .blank (.fresh numbered.2)⟩ ∨
          triple.subject = .blank (.fresh numbered.2) ∧
            (triple.predicate, triple.object) ∈ numbered.1.statements := by
  simp only [allTriples, List.mem_cons, resultTriples_eq, List.mem_flatMap, mem_linkedTriples_iff]

theorem nodup_allTriples (report : Report) (supply : Nat) : (report.allTriples supply).Nodup := by
  have noResult : ∀ (name : Iri) (object : Term), name ≠ sh "result" →
      ⟨.blank (.fresh supply), name, object⟩ ∉
        resultTriples (.blank (.fresh supply)) (supply + 1) report.results := by
    intro name object other member
    rw [resultTriples_eq, List.mem_flatMap] at member
    obtain ⟨numbered, numberedIn, member⟩ := member
    rcases mem_linkedTriples_iff.mp member with same | ⟨subject, -⟩
    · exact other (congrArg Triple.predicate same)
    · exact apart_of_lt _ (List.le_snd_of_mem_zipIdx numberedIn) subject
  refine List.nodup_cons.mpr ⟨?_, List.nodup_cons.mpr ⟨?_, nodup_resultTriples _ apart_of_lt⟩⟩
  · intro member
    rcases List.mem_cons.mp member with same | member
    · exact sh_ne_rdf _ _ (congrArg Triple.predicate same).symm
    · exact noResult _ _ (sh_ne_rdf _ _).symm member
  · exact noResult _ _ (by decide +kernel)

theorem triples_toGraph (report : Report) (supply : Nat) :
    (report.toGraph supply).1.triples = report.allTriples supply :=
  Graph.insertAll_of_nodup (report.nodup_allTriples supply)

section Graphs

variable {report : Report} {supply : Nat} {graph : Graph}
  (same : graph.SameTriples (report.toGraph supply).1)

include same

theorem perm_of_same : graph.triples.Perm (report.allTriples supply) := by
  rw [← triples_toGraph]
  exact same.perm

theorem mem_iff_of_same {triple : Triple} : triple ∈ graph ↔ triple ∈ report.allTriples supply :=
  (perm_of_same same).mem_iff

/-! ### Links -/

theorem links_type_iff {source : Term} :
    graph.Links (rdf "type") source (.iri (sh "ValidationReport")) ↔
      source = .blank (.fresh supply) := by
  constructor
  · rintro ⟨triple, member, rfl, predicate, object⟩
    rcases mem_allTriples_iff.mp ((mem_iff_of_same same).mp member) with rfl | rfl | found
    · rfl
    · rfl
    · obtain ⟨numbered, -, rfl | ⟨-, said⟩⟩ := found
      · rfl
      · rw [predicate, object] at said
        have asResult := Result.statement_unique List.mem_cons_self said
        exact absurd asResult (by decide +kernel)
  · rintro rfl
    exact links_blank_iff.mpr ((mem_iff_of_same same).mpr (mem_allTriples_iff.mpr (.inl rfl)))

theorem links_report_iff {predicate : Iri} {target : Term} :
    graph.Links predicate (.blank (.fresh supply)) target ↔
      (predicate = rdf "type" ∧ target = .iri (sh "ValidationReport")) ∨
      (predicate = sh "conforms" ∧ target = .literal (.ofBool report.conforms)) ∨
      (predicate = sh "result" ∧
        ∃ numbered ∈ report.results.zipIdx (supply + 1), target = .blank (.fresh numbered.2)) := by
  rw [links_blank_iff, mem_iff_of_same same, mem_allTriples_iff]
  constructor
  · rintro (found | found | ⟨numbered, numberedIn, found | ⟨subject, -⟩⟩)
    · cases found
      exact .inl ⟨rfl, rfl⟩
    · cases found
      exact .inr (.inl ⟨rfl, rfl⟩)
    · cases found
      exact .inr (.inr ⟨rfl, numbered, numberedIn, rfl⟩)
    · exact absurd subject (apart_of_lt _ (List.le_snd_of_mem_zipIdx numberedIn))
  · rintro (⟨rfl, rfl⟩ | ⟨rfl, rfl⟩ | ⟨rfl, numbered, numberedIn, rfl⟩)
    · exact .inl rfl
    · exact .inr (.inl rfl)
    · exact .inr (.inr ⟨numbered, numberedIn, .inl rfl⟩)

theorem links_result_iff {numbered : Result × Nat}
    (numberedIn : numbered ∈ report.results.zipIdx (supply + 1)) {predicate : Iri}
    {target : Term} :
    graph.Links predicate (.blank (.fresh numbered.2)) target ↔
      (predicate, target) ∈ numbered.1.statements := by
  have position := List.mk_mem_zipIdx_iff_le_and_getElem?_sub.mp numberedIn
  have notReport : Subject.blank (.fresh numbered.2) ≠ .blank (.fresh supply) :=
    (apart_of_lt _ position.1).symm
  rw [links_blank_iff, mem_iff_of_same same, mem_allTriples_iff]
  constructor
  · rintro (found | found | ⟨other, otherIn, found | ⟨subject, said⟩⟩)
    · exact absurd (congrArg Triple.subject found) notReport
    · exact absurd (congrArg Triple.subject found) notReport
    · exact absurd (congrArg Triple.subject found) notReport
    · have sameIndex : numbered.2 = other.2 := by simpa using subject
      have otherPosition := List.mk_mem_zipIdx_iff_le_and_getElem?_sub.mp otherIn
      rw [← sameIndex, position.2, Option.some.injEq] at otherPosition
      rw [otherPosition.2]
      exact said
  · intro said
    exact .inr (.inr ⟨numbered, numberedIn, .inr ⟨rfl, said⟩⟩)

/-! ### Look-ups -/

theorem objectOf?_statement {numbered : Result × Nat}
    (numberedIn : numbered ∈ report.results.zipIdx (supply + 1)) {predicate : Iri}
    {target : Term} (said : (predicate, target) ∈ numbered.1.statements) :
    graph.objectOf? (.blank (.fresh numbered.2)) predicate = some target :=
  Graph.objectOf?_eq_some ((links_result_iff same numberedIn).mpr said) fun _ links =>
    Result.statement_unique said ((links_result_iff same numberedIn).mp links)

theorem objectOf?_optional {numbered : Result × Nat}
    (numberedIn : numbered ∈ report.results.zipIdx (supply + 1)) {predicate : Iri}
    {object : Option Term}
    (said : ∀ target, (predicate, target) ∈ numbered.1.statements ↔ object = some target) :
    graph.objectOf? (.blank (.fresh numbered.2)) predicate = object := by
  cases object with
  | none =>
      refine Graph.objectOf?_eq_none fun target links => ?_
      cases (said target).mp ((links_result_iff same numberedIn).mp links)
  | some target => exact objectOf?_statement same numberedIn ((said target).mpr rfl)

theorem read?_result {numbered : Result × Nat}
    (numberedIn : numbered ∈ report.results.zipIdx (supply + 1)) :
    Entry.read? graph (.blank (.fresh numbered.2)) = some numbered.1.entry := by
  obtain ⟨result, index⟩ := numbered
  let node : Term := .blank (.fresh index)
  have severity : graph.objectOf? node (sh "resultSeverity") = some (.iri result.severity.iri) :=
    objectOf?_statement same numberedIn (by simp [Result.statements])
  have focusNode : graph.objectOf? node (sh "focusNode") = some result.focusNode :=
    objectOf?_statement same numberedIn (by simp [Result.statements])
  have message : graph.objectOf? node (sh "resultMessage") =
      some (.literal (.plain result.message)) :=
    objectOf?_statement same numberedIn (by simp [Result.statements])
  have component : graph.objectOf? node (sh "sourceConstraintComponent") =
      some (.iri result.component) :=
    objectOf?_statement same numberedIn (by simp [Result.statements])
  have shape : graph.objectOf? node (sh "sourceShape") = some result.shape :=
    objectOf?_statement same numberedIn (by simp [Result.statements])
  have path : graph.objectOf? node (sh "resultPath") = result.path.map Path.toObject :=
    objectOf?_optional same numberedIn fun _ => Result.statement_path_iff
  have value : graph.objectOf? node (sh "value") = result.value :=
    objectOf?_optional same numberedIn fun _ => Result.statement_value_iff
  have shown : (result.path.map Path.toObject).bind readPath? = result.entry.path := by
    cases found : result.path with
    | none => simp [Result.entry, found]
    | some path =>
        simp only [Option.map_some, Option.bind_some, readPath?_toObject, Result.entry, found]
  rw [Entry.read?, severity, focusNode, message, component, shape, path, value, shown]
  simp only [Option.bind_eq_bind, Option.bind_some, Severity.ofTerm?_iri]
  rfl

/-! ### Reading -/

theorem objectsOf_result : (graph.objectsOf (.blank (.fresh supply)) (sh "result")).Perm
    (report.resultNodes supply) := by
  rw [List.perm_ext_iff_of_nodup (Graph.nodup_objectsOf _ _ _) (report.nodup_resultNodes supply)]
  intro target
  rw [Graph.mem_objectsOf_iff, links_report_iff same]
  simp [resultNodes, sh_inj, (sh_ne_rdf "result" "type").symm, eq_comm]

theorem filterMap_resultNodes :
    (report.resultNodes supply).filterMap (Entry.read? graph) =
      report.results.map Result.entry := by
  have readable : ∀ numbered ∈ report.results.zipIdx (supply + 1),
      (Entry.read? graph ∘ fun numbered => .blank (.fresh numbered.2)) numbered =
        some (numbered.1.entry) := fun _ numberedIn => read?_result same numberedIn
  rw [resultNodes, List.filterMap_map, List.filterMap_congr readable, List.filterMap_eq_map',
    map_zipIdx]

theorem head?_subjects : ((graph.subjects (rdf "type") (.iri (sh "ValidationReport"))).map
    Subject.toTerm).head? = some (.blank (.fresh supply)) := by
  have only {source : Term} : source ∈
      (graph.subjects (rdf "type") (.iri (sh "ValidationReport"))).map Subject.toTerm ↔
        source = .blank (.fresh supply) :=
    Graph.mem_subjects_iff.trans (links_type_iff same)
  cases found : (graph.subjects (rdf "type") (.iri (sh "ValidationReport"))).map
      Subject.toTerm with
  | nil =>
      have member := only.mpr rfl
      rw [found] at member
      cases member
  | cons first rest =>
      rw [found] at only
      exact congrArg some (only.mp List.mem_cons_self)

theorem objectOf?_conforms : graph.objectOf? (.blank (.fresh supply)) (sh "conforms") =
    some (.literal (.ofBool report.conforms)) := by
  have links {target : Term} := @links_report_iff _ _ _ same (sh "conforms") target
  refine Graph.objectOf?_eq_some (links.mpr (.inr (.inl ⟨rfl, rfl⟩))) fun other found => ?_
  rcases links.mp found with ⟨asType, -⟩ | ⟨-, rfl⟩ | ⟨asResult, -⟩
  · exact absurd asType (sh_ne_rdf _ _)
  · rfl
  · exact absurd asResult (by decide +kernel)

end Graphs

end Report

theorem mapM_eq_filterMap {α β : Type} {read : α → Option β} {items : List α}
    (readable : ∀ item ∈ items, (read item).isSome) :
    items.mapM read = some (items.filterMap read) := by
  induction items with
  | nil => rfl
  | cons first rest ih =>
      obtain ⟨readableFirst, readableRest⟩ := List.forall_mem_cons.mp readable
      obtain ⟨value, found⟩ := Option.isSome_iff_exists.mp readableFirst
      rw [List.mapM_cons, found, ih readableRest, List.filterMap_cons_some found]
      rfl

/-- The graph of a report, in whatever order its triples are listed, has a link for each result and
one triple for each thing that a result says. The verdict and all results can be read back from it,
equal ones as often as they are in the report. -/
theorem Report.read_back_of_sameTriples (report : Report) (supply : Nat) {graph : Graph}
    (same : graph.SameTriples (report.toGraph supply).1) :
    graph.size = 2 + (report.results.map fun result =>
        7 + result.path.isSome.toNat + result.value.isSome.toNat).sum ∧
      (graph.withPredicate (sh "result")).length = report.results.length ∧
      ∃ entries, readReport? graph = some (report.conforms, entries) ∧
        entries.Perm (report.results.map Result.entry) := by
  have nodes := objectsOf_result same
  have readable : ∀ node ∈ graph.objectsOf (.blank (.fresh supply)) (sh "result"),
      (Entry.read? graph node).isSome := by
    intro node member
    obtain ⟨numbered, numberedIn, rfl⟩ := List.mem_map.mp (nodes.mem_iff.mp member)
    rw [read?_result same numberedIn]
    rfl
  refine ⟨?_, ?_, _, ?_,
    (nodes.filterMap (Entry.read? graph)).trans (.of_eq (filterMap_resultNodes same))⟩
  · rw [Graph.size, (perm_of_same same).length_eq, allTriples, List.length_cons, List.length_cons,
      length_resultTriples]
    omega
  · rw [Graph.withPredicate, ((perm_of_same same).filter _).length_eq]
    simp [allTriples, sh_inj, (sh_ne_rdf "result" "type").symm, length_filter_resultTriples]
  · rw [readReport?, head?_subjects same]
    simp only [Option.bind_eq_bind, Option.bind_some, objectOf?_conforms same, readFlag?_ofBool,
      mapM_eq_filterMap readable]
    rfl

/-- A report with one result twice and one about a path that is no plain predicate. -/
def repetitive : Report :=
  let twice : Result :=
    ⟨.violation, .iri ⟨"http://ex.org/alice"⟩, some (.predicate ⟨"http://ex.org/name"⟩), none,
      "Less than 1 values", Constraint.component (.minCount 1), .blank (.fresh 0)⟩
  ⟨[twice, twice,
    ⟨.warning, .blank (.fresh 1), some (.inverse (.predicate ⟨"http://ex.org/name"⟩)),
      some (.blank (.fresh 2)), "Value does not have node kind sh:IRI",
      Constraint.component (.nodeKind .iri), .iri ⟨"http://ex.org/Shape"⟩⟩]⟩

/-- The nodes of the results are terms in the results as well, and the triples are listed
backwards. -/
theorem read_back_of_sameTriples_repetitive :
    let listing := Graph.ofList (repetitive.toGraph 0).1.triples.reverse
    listing.SameTriples (repetitive.toGraph 0).1 ∧ listing.size = 27 ∧
      ∃ entries, readReport? listing = some (false, entries) ∧
        entries.Perm (repetitive.results.map Result.entry) := by
  intro listing
  have same : listing.SameTriples (repetitive.toGraph 0).1 := by
    intro triple
    rw [Graph.mem_ofList_iff, List.mem_reverse]
    exact Iff.rfl
  obtain ⟨size, -, entries⟩ := repetitive.read_back_of_sameTriples 0 same
  exact ⟨same, size, entries⟩

end RdfPipeline.Shape
