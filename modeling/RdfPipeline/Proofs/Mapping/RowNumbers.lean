import RdfPipeline.Proofs.Mapping.Composition
import RdfPipeline.Proofs.Mapping.Subject

/-!
# Rows named by their numbers

A row whose cells cannot name it has its number in its subject. No other row of the same run has
that subject, whatever its own cells are, so that the graph says about it what the row says.
-/

set_option autoImplicit false

namespace RdfPipeline

open Rdf (Graph Iri Triple)

theorem Rdf.Iri.text_of_parse {text : String} {iri : Iri} (parsed : Iri.parse? text = some iri) :
    iri.text = text := by
  simp only [Iri.parse?] at parsed
  split at parsed
  · cases parsed
    rfl
  · cases parsed

namespace Mapping

/-! ## Numbered subjects -/

theorem IsName.no_slash {text : String} (name : IsName text) : '/' ∉ text.toList := by
  intro slash
  have impossible := name '/' slash
  revert impossible
  decide

/-- There is no subject column, or the record has nothing but null or blanks in it. -/
def Plan.Numbers (plan : Plan) (record : Record) : Prop :=
  ∀ column cell, plan.subjectColumn = some column → Dict.get? column record = some cell →
    cell = .null ∨ ∃ text, cell = .text text ∧ ∀ c ∈ text.toList, Text.isBlank c = true

def Plan.numberedSubject (plan : Plan) (number : Nat) : String :=
  plan.baseUri ++ "row/" ++ toString number

theorem isMissing_iff {cell : Value} : cell.isMissing = true ↔
    cell = .null ∨ ∃ text, cell = .text text ∧ ∀ c ∈ text.toList, Text.isBlank c = true := by
  cases cell <;> simp [Value.isMissing, Text.isAllBlank]

section Subjects

variable {plan : Plan} {record : Record}

theorem Plan.numbers_iff : plan.Numbers record ↔ plan.subjectCell? record = none := by
  simp only [Plan.Numbers, Plan.subjectCell?, ← isMissing_iff, Option.filter_eq_none_iff,
    Option.bind_eq_some_iff, Bool.not_eq_true', Bool.not_eq_false]
  constructor
  · intro missing cell found
    obtain ⟨column, isColumn, inRecord⟩ := found
    exact missing column cell isColumn inRecord
  · intro missing column cell isColumn inRecord
    exact missing cell ⟨column, isColumn, inRecord⟩

theorem Plan.numberedSubject_inj {number other : Nat} :
    plan.numberedSubject number = plan.numberedSubject other ↔ number = other := by
  constructor
  · intro same
    have sameChars := congrArg String.toList same
    simp only [Plan.numberedSubject, String.toList_append] at sameChars
    have sameDigits := congrArg (fun digits => Nat.ofDigitChars 10 digits 0)
      (List.append_cancel_left sameChars)
    simpa [Nat.toString_eq_ofList_toDigits] using sameDigits
  · intro same
    rw [same]

/-- A name has no slash, so it cannot look like a number behind `row/`. -/
theorem Plan.named_ne_numberedSubject {name : String} (isName : IsName name) (number : Nat) :
    plan.baseUri ++ name ≠ plan.numberedSubject number := by
  intro same
  have sameChars := congrArg String.toList same
  simp only [Plan.numberedSubject, String.toList_append, List.append_assoc] at sameChars
  have sameName := List.append_cancel_left sameChars
  apply isName.no_slash
  rw [sameName]
  simp

theorem Plan.subjectText_eq_numberedSubject_iff (untemplated : plan.subjectTemplate = none)
    {number wanted : Nat} :
    plan.subjectText record number = plan.numberedSubject wanted ↔
      number = wanted ∧ plan.Numbers record := by
  rw [Plan.numbers_iff, Plan.subjectText, untemplated]
  cases plan.subjectCell? record with
  | none =>
      have text : plan.baseUri ++ "row/" ++ toString number = plan.numberedSubject number := rfl
      simp only [text, Plan.numberedSubject_inj, and_true]
  | some cell =>
      have apart : plan.baseUri ++ sanitize cell.toText ≠ plan.numberedSubject wanted :=
        Plan.named_ne_numberedSubject (isName_sanitize cell.toText) wanted
      simp [apart]

theorem Plan.text_of_subject {number : Nat} {iri : Iri}
    (named : plan.subject record number = .ok iri) :
    iri.text = plan.subjectText record number := by
  unfold Plan.subject at named
  cases parsed : Iri.parse? (plan.subjectText record number) with
  | none =>
      rw [parsed] at named
      cases named
  | some parsedIri =>
      rw [parsed] at named
      cases named
      exact Iri.text_of_parse parsed

theorem Plan.subject_of_rowTriples {number : Nat} {triples : List Triple}
    (mapped : plan.rowTriples record number = .ok triples) :
    ∃ iri, plan.subject record number = .ok iri ∧
      ∀ triple ∈ triples, triple.subject = .iri iri := by
  unfold Plan.rowTriples at mapped
  cases named : plan.subject record number with
  | error error =>
      rw [named] at mapped
      cases mapped
  | ok iri =>
      rw [named] at mapped
      cases mapped
      refine ⟨iri, rfl, ?_⟩
      simp only [Plan.typeTriples, Plan.propertyTriples, List.forall_mem_append,
        List.forall_mem_map, List.forall_mem_flatMap, implies_true, and_self]

end Subjects

/-! ## The rows of a run -/

/-- Rows are mapped under their places in the stream, and the graph has the triples of all. -/
theorem Plan.mapRows_eq_ok {plan : Plan} {records : List Record} {progress after : Progress}
    (mapped : plan.mapRows records progress = .ok after) :
    (∀ row ∈ records.zipIdx (progress.processed + 1), ∃ triples,
      plan.rowTriples row.1 row.2 = .ok triples) ∧
    ∀ triple, triple ∈ after.graph ↔ triple ∈ progress.graph ∨
      ∃ row ∈ records.zipIdx (progress.processed + 1), ∃ triples,
        plan.rowTriples row.1 row.2 = .ok triples ∧ triple ∈ triples := by
  induction records generalizing progress with
  | nil =>
      cases mapped
      simp
  | cons first rest ih =>
      rw [Plan.mapRows, List.foldlM_cons, Plan.mapRow] at mapped
      cases row : plan.rowTriples first (progress.processed + 1) with
      | error error =>
          rw [row] at mapped
          cases mapped
      | ok triples =>
          rw [row] at mapped
          obtain ⟨others, contents⟩ := ih mapped
          simp only [List.zipIdx_cons, List.forall_mem_cons, List.exists_mem_cons_iff, row,
            Except.ok.injEq, exists_eq', exists_eq_left', true_and]
          refine ⟨others, ?_⟩
          intro triple
          rw [contents, Graph.mem_insertAll_iff, or_assoc]

theorem Plan.Setting.map_eq_ok {plan : Plan} {setting : plan.Setting} {records : List Record}
    {result : OperationResult} (mapped : setting.map records = .ok result) :
    (∀ row ∈ records.zipIdx 1, ∃ triples, plan.rowTriples row.1 row.2 = .ok triples) ∧
    ∃ graph, Yields result graph ∧ ∀ triple, triple ∈ graph ↔ ∃ row ∈ records.zipIdx 1, ∃ triples,
      plan.rowTriples row.1 row.2 = .ok triples ∧ triple ∈ triples := by
  obtain ⟨session, run⟩ := setting.map_eq records
  cases rows : plan.mapRows records ⟨0, .empty⟩ with
  | error error =>
      rw [run, rows] at mapped
      cases mapped
  | ok progress =>
      obtain ⟨each, contents⟩ := Plan.mapRows_eq_ok rows
      obtain ⟨yielded, ended, yields⟩ := conclude_yields progress session
      have same : yielded = result := by
        rw [run, rows] at mapped
        exact Except.ok.inj (ended.symm.trans mapped)
      refine ⟨each, progress.graph, same ▸ yields, ?_⟩
      intro triple
      rw [contents]
      exact or_iff_right List.not_mem_nil

theorem row_unique {records : List Record} {row other : Record × Nat}
    (isRow : row ∈ records.zipIdx 1) (isOther : other ∈ records.zipIdx 1)
    (sameNumber : other.2 = row.2) : other = row := by
  rw [List.mem_zipIdx_iff_le_and_getElem?_sub] at isRow isOther
  have sameRecord : some other.1 = some row.1 := by
    rw [← isOther.2, ← isRow.2, sameNumber]
  exact Prod.ext (Option.some.inj sameRecord) sameNumber

/-- What the graph says about a subject that only one row has is what the row says. -/
theorem Plan.Setting.mem_graph_about_iff {plan : Plan} {setting : plan.Setting}
    {records : List Record} {result : OperationResult} (mapped : setting.map records = .ok result)
    {record : Record} {number : Nat} (isRow : (record, number) ∈ records.zipIdx 1)
    (unshared : ∀ other ∈ records.zipIdx 1, ∀ iri, plan.subject record number = .ok iri →
      plan.subject other.1 other.2 = .ok iri → other = (record, number)) :
    ∃ iri graph, plan.subject record number = .ok iri ∧ Yields result graph ∧
      ∀ triple, triple ∈ graph ∧ triple.subject = .iri iri ↔
        ∃ triples, plan.rowTriples record number = .ok triples ∧ triple ∈ triples := by
  obtain ⟨each, graph, yields, contents⟩ := setting.map_eq_ok mapped
  obtain ⟨triples, ofRow⟩ := each (record, number) isRow
  obtain ⟨iri, named, about⟩ := Plan.subject_of_rowTriples ofRow
  refine ⟨iri, graph, named, yields, fun triple => ⟨?_, ?_⟩⟩
  · intro within
    obtain ⟨other, isOther, others, ofOther, member⟩ := (contents triple).mp within.1
    obtain ⟨otherIri, otherNamed, aboutOther⟩ := Plan.subject_of_rowTriples ofOther
    have sameIri : otherIri = iri := by
      simpa [aboutOther triple member] using within.2
    cases unshared other isOther iri named (sameIri ▸ otherNamed)
    exact ⟨others, ofOther, member⟩
  · intro given
    obtain ⟨others, ofRow', member⟩ := given
    cases Except.ok.inj (ofRow'.symm.trans ofRow)
    have within := (contents triple).mpr ⟨(record, number), isRow, triples, ofRow, member⟩
    exact ⟨within, about triple member⟩

/-- Without a template the rows named by their numbers are those whose cells cannot name them, and
the subject of such a row is its own: no other row of the run has it, and the triples about it in the
graph are the triples of the row. -/
theorem numberedSubject_unshared {plan : Plan} (untemplated : plan.subjectTemplate = none)
    {records : List Record} {record : Record} {number : Nat}
    (isRow : (record, number) ∈ records.zipIdx 1) (numbered : plan.Numbers record) :
    (∀ other ∈ records.zipIdx 1,
      (plan.subjectText other.1 other.2 = plan.baseUri ++ "row/" ++ toString other.2 ↔
        plan.Numbers other.1) ∧
      (plan.subjectText other.1 other.2 = plan.subjectText record number ↔
        other = (record, number)) ∧
      ∀ iri, plan.subject record number = .ok iri → plan.subject other.1 other.2 = .ok iri →
        other = (record, number)) ∧
    ∀ (setting : plan.Setting) result, setting.map records = .ok result →
      ∃ iri graph, plan.subject record number = .ok iri ∧ Yields result graph ∧
        ∀ triple, triple ∈ graph ∧ triple.subject = .iri iri ↔
          ∃ triples, plan.rowTriples record number = .ok triples ∧ triple ∈ triples := by
  have own : plan.subjectText record number = plan.numberedSubject number :=
    (Plan.subjectText_eq_numberedSubject_iff untemplated).mpr ⟨rfl, numbered⟩
  have unshared : ∀ other ∈ records.zipIdx 1,
      plan.subjectText other.1 other.2 = plan.subjectText record number →
        other = (record, number) := by
    intro other isOther same
    rw [own, Plan.subjectText_eq_numberedSubject_iff untemplated] at same
    exact row_unique isRow isOther same.1
  have unsharedIri : ∀ other ∈ records.zipIdx 1, ∀ iri, plan.subject record number = .ok iri →
      plan.subject other.1 other.2 = .ok iri → other = (record, number) := by
    intro other isOther iri named otherNamed
    apply unshared other isOther
    rw [← Plan.text_of_subject otherNamed, Plan.text_of_subject named]
  constructor
  · intro other isOther
    have numbers : plan.subjectText other.1 other.2 = plan.numberedSubject other.2 ↔
        plan.Numbers other.1 :=
      (Plan.subjectText_eq_numberedSubject_iff untemplated).trans (and_iff_right rfl)
    have itself : other = (record, number) →
        plan.subjectText other.1 other.2 = plan.subjectText record number := by
      intro same
      rw [same]
    exact ⟨numbers, ⟨unshared other isOther, itself⟩, unsharedIri other isOther⟩
  · intro setting result mapped
    exact Plan.Setting.mem_graph_about_iff mapped isRow unsharedIri

/-! Staff again: the number of the first one reads like the name of the second, who has none. -/

def eve : Record := [("id", .text "row/2"), ("name", .text "Eve")]

def unnumbered : Record := [("id", .text " \t"), ("name", .text "Cy")]

theorem numberedSubject_unshared_unnumbered :
    staffPlan.subjectTemplate = none ∧ (unnumbered, 2) ∈ [eve, unnumbered].zipIdx 1 ∧
      staffPlan.Numbers unnumbered ∧
      staffPlan.subjectText eve 1 = "http://ex.org/staff/row_2" ∧
      staffPlan.subjectText unnumbered 2 = "http://ex.org/staff/row/2" ∧
      staffPlan.subjectText eve 1 ≠ staffPlan.subjectText unnumbered 2 ∧
      ∃ result iri graph, staffSetting.map [eve, unnumbered] = .ok result ∧ Yields result graph ∧
        ∀ triple, triple ∈ graph ∧ triple.subject = .iri iri ↔
          ∃ triples, staffPlan.rowTriples unnumbered 2 = .ok triples ∧ triple ∈ triples := by
  have numbered : staffPlan.Numbers unnumbered :=
    Plan.numbers_iff.mpr (Option.isNone_iff_eq_none.mp (by decide +kernel))
  have isRow : (unnumbered, 2) ∈ [eve, unnumbered].zipIdx 1 := by simp
  obtain ⟨unshared, own⟩ := numberedSubject_unshared rfl isRow numbered
  have apart : staffPlan.subjectText eve 1 ≠ staffPlan.subjectText unnumbered 2 := by
    intro same
    have sameRow := (unshared (eve, 1) (by simp)).2.1.mp same
    have sameNumber : 1 = 2 := congrArg Prod.snd sameRow
    exact absurd sameNumber (by decide)
  have mapped : ∃ result, staffSetting.map [eve, unnumbered] = .ok result := by
    have isOk : (staffSetting.map [eve, unnumbered]).isOk = true := by decide +kernel
    cases outcome : staffSetting.map [eve, unnumbered] with
    | error error => rw [outcome] at isOk; cases isOk
    | ok result => exact ⟨result, rfl⟩
  obtain ⟨result, mapped⟩ := mapped
  obtain ⟨iri, graph, -, yields, contents⟩ := own staffSetting result mapped
  exact ⟨rfl, isRow, numbered, by decide +kernel, by decide +kernel, apart, result, iri, graph,
    mapped, yields, contents⟩

end Mapping

end RdfPipeline
