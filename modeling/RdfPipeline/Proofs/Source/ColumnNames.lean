import Mathlib.Data.List.Forall2
import RdfPipeline.Proofs.Dict
import RdfPipeline.Proofs.Source.Delivery
import RdfPipeline.Source.Csv

/-!
# Columns of rows

The record of a row holds each field under the name of its column. Where the header has distinct
names, a field is lost only to one beyond the header, and only if the header has the number that this
one is named by. Each such field costs the record one entry, and all others are kept.
-/

set_option autoImplicit false

namespace RdfPipeline.Source.Csv

open RdfPipeline.Csv
open Files (Bytes)

/-! ## Names of columns -/

section Names

variable {columns fields : List String} {index other : Nat}

theorem columnName_of_lt (named : index < columns.length) :
    columnName columns index = columns[index] := by
  rw [columnName, List.getElem?_eq_getElem named]
  rfl

theorem columnName_of_le (surplus : columns.length ≤ index) :
    columnName columns index = "column" ++ (index + 1).repr := by
  rw [columnName, List.getElem?_eq_none surplus]
  rfl

theorem columnName_mem (named : index < columns.length) : columnName columns index ∈ columns := by
  rw [columnName_of_lt named]
  exact List.getElem_mem named

theorem columnName_inj_of_le (surplus : columns.length ≤ index) (surplus' : columns.length ≤ other)
    (same : columnName columns index = columnName columns other) : index = other := by
  rw [columnName_of_le surplus, columnName_of_le surplus', String.append_right_inj,
    Nat.repr_eq_ofList_toDigits, Nat.repr_eq_ofList_toDigits, String.ofList_inj] at same
  have sameValue := congrArg (Nat.ofDigitChars 10 · 0) same
  rw [Nat.ofDigitChars_ten_toDigits, Nat.ofDigitChars_ten_toDigits] at sameValue
  exact Nat.succ.inj sameValue

/-- A field beyond the header is named like a column of the header. -/
structure Overwrites (columns fields : List String) (index : Nat) : Prop where
  surplus : columns.length ≤ index
  there : index < fields.length
  named : columnName columns index ∈ columns

instance (columns fields : List String) (index : Nat) :
    Decidable (Overwrites columns fields index) :=
  decidable_of_iff
    (columns.length ≤ index ∧ index < fields.length ∧ columnName columns index ∈ columns)
    ⟨fun ⟨surplus, there, named⟩ => ⟨surplus, there, named⟩,
      fun ⟨surplus, there, named⟩ => ⟨surplus, there, named⟩⟩

/-- Where the fields of a row stand that overwrite others. -/
def overwriting (columns fields : List String) : List Nat :=
  (List.range fields.length).filter fun index => Overwrites columns fields index

/-- A field beyond the header takes the place of this one. -/
def Overwritten (columns fields : List String) (index : Nat) : Prop :=
  ∃ later, index < later ∧ Overwrites columns fields later ∧
    columnName columns later = columnName columns index

theorem mem_overwriting_iff :
    index ∈ overwriting columns fields ↔ Overwrites columns fields index := by
  rw [overwriting, List.mem_filter, List.mem_range, decide_eq_true_iff]
  exact and_iff_right_of_imp Overwrites.there

/-- Only a field beyond the header has the name of an earlier field. -/
theorem overwrites_of_columnName_eq (distinct : columns.Nodup) (before : index < other)
    (there : other < fields.length) (same : columnName columns other = columnName columns index) :
    Overwrites columns fields other := by
  obtain named | surplus := Nat.lt_or_ge other columns.length
  · have named' : index < columns.length := Nat.lt_trans before named
    rw [columnName_of_lt named, columnName_of_lt named'] at same
    exact absurd ((distinct.getElem_inj_iff).mp same) (Nat.ne_of_gt before)
  · refine ⟨surplus, there, ?_⟩
    obtain named' | surplus' := Nat.lt_or_ge index columns.length
    · exact same ▸ columnName_mem named'
    · exact absurd (columnName_inj_of_le surplus surplus' same) (Nat.ne_of_gt before)

/-- Fields that overwrite none have different names. -/
theorem eq_of_columnName_eq (distinct : columns.Nodup) (there : index < fields.length)
    (there' : other < fields.length) (keeps : ¬Overwrites columns fields index)
    (keeps' : ¬Overwrites columns fields other)
    (same : columnName columns index = columnName columns other) : index = other := by
  rcases Nat.lt_trichotomy index other with before | together | behind
  · exact absurd (overwrites_of_columnName_eq distinct before there' same.symm) keeps'
  · exact together
  · exact absurd (overwrites_of_columnName_eq distinct behind there same) keeps

/-- Each name of a row is that of a field that overwrites none. -/
theorem exists_not_overwrites (there : index < fields.length) :
    ∃ place < fields.length, ¬Overwrites columns fields place ∧
      columnName columns place = columnName columns index := by
  by_cases overwrites : Overwrites columns fields index
  · obtain ⟨place, within, same⟩ := List.getElem_of_mem overwrites.named
    have before : place < index := Nat.lt_of_lt_of_le within overwrites.surplus
    refine ⟨place, Nat.lt_trans before there, fun again => ?_, (columnName_of_lt within).trans same⟩
    exact Nat.not_lt.mpr again.surplus within
  · exact ⟨index, there, overwrites, rfl⟩

end Names

/-! ## Records of rows -/

section Records

variable {columns fields : List String}

theorem getElem?_nameFields (columns : List String) (first : Nat) (fields : List String)
    (index : Nat) :
    (nameFields columns false first fields)[index]? =
      fields[index]?.map fun field => (columnName columns (first + index), .text field) := by
  induction fields generalizing first index with
  | nil => rfl
  | cons field rest ih =>
      cases index with
      | zero => rfl
      | succ index =>
          have shifted : first + (index + 1) = first + 1 + index := by omega
          rw [shifted]
          exact ih (first + 1) index

theorem keys_nameFields (columns fields : List String) :
    Dict.keys (nameFields columns false 0 fields) =
      (List.range fields.length).map (columnName columns) := by
  apply List.ext_getElem?
  intro index
  rw [Dict.keys, List.getElem?_map, getElem?_nameFields, List.getElem?_map, Nat.zero_add]
  obtain within | outside := Nat.lt_or_ge index fields.length
  · rw [List.getElem?_eq_getElem within, List.getElem?_range within]
    rfl
  · rw [List.getElem?_eq_none outside, List.getElem?_eq_none (by simpa using outside)]
    rfl

/-- The record has as many entries as there are fields, and holds each of them unchanged under the
name of its column. -/
structure KeepsFields (columns fields : List String) (record : Record) : Prop where
  size : record.length = fields.length
  stored : ∀ index < fields.length,
    Dict.get? (columnName columns index) record = fields[index]?.map .text

/-- The record has an entry for the name of each column of the row and no other. There it holds the
field unchanged, or the one beyond the header that overwrites it, and each of these leaves one entry
fewer than there are fields. -/
structure KeepsOthers (columns fields : List String) (record : Record) : Prop where
  size : record.length + (overwriting columns fields).length = fields.length
  names : ∀ name, name ∈ Dict.keys record ↔
    ∃ index < fields.length, columnName columns index = name
  stored : ∀ index < fields.length, ¬Overwritten columns fields index →
    Dict.get? (columnName columns index) record = fields[index]?.map .text
  replaced : ∀ index, Overwrites columns fields index →
    Dict.get? (columnName columns index) record = fields[index]?.map .text

theorem KeepsOthers.keepsFields_iff {record : Record} (keeps : KeepsOthers columns fields record) :
    KeepsFields columns fields record ↔ ∀ index, ¬Overwrites columns fields index := by
  have none_iff : (∀ index, ¬Overwrites columns fields index) ↔
      (overwriting columns fields).length = 0 := by
    simp only [List.length_eq_zero_iff, List.eq_nil_iff_forall_not_mem, mem_overwriting_iff]
  have size := keeps.size
  constructor
  · intro whole
    have sameSize := whole.size
    exact none_iff.mpr (by omega)
  · intro none
    have noneOverwriting := none_iff.mp none
    refine ⟨by omega, fun index there => keeps.stored index there fun overwritten => ?_⟩
    obtain ⟨later, -, overwrites, -⟩ := overwritten
    exact none later overwrites

/-- A field is found under its name if no later one has that name too. -/
theorem get?_toRecord {index : Nat} (there : index < fields.length)
    (last : ∀ later, index < later → later < fields.length →
      columnName columns later ≠ columnName columns index) :
    Dict.get? (columnName columns index) (toRecord columns false fields) =
      fields[index]?.map .text := by
  have found : (nameFields columns false 0 fields)[index]? =
      some (columnName columns index, .text fields[index]) := by
    rw [getElem?_nameFields, List.getElem?_eq_getElem there, Nat.zero_add]
    rfl
  rw [List.getElem?_eq_getElem there]
  apply Dict.get?_ofList_of_last found
  intro later entry behind isEntry
  rw [getElem?_nameFields, Option.map_eq_some_iff] at isEntry
  obtain ⟨field, isField, rfl⟩ := isEntry
  rw [Nat.zero_add]
  exact last later behind (List.getElem?_eq_some_iff.mp isField).1

/-- The names of a row are those of the fields that overwrite none, each once. -/
theorem keys_toRecord_perm (distinct : columns.Nodup) (fields : List String) :
    (Dict.keys (toRecord columns false fields)).Perm
      (((List.range fields.length).filter fun index => !decide (Overwrites columns fields index)).map
        (columnName columns)) := by
  have mem_others : ∀ {index},
      index ∈ (List.range fields.length).filter (fun index => !decide (Overwrites columns fields index))
        ↔ index < fields.length ∧ ¬Overwrites columns fields index := by
    simp
  apply Dict.keys_ofList_perm
  · rw [List.nodup_map_iff_inj_on (List.nodup_range.filter _)]
    intro left isLeft right isRight same
    obtain ⟨there, keeps⟩ := mem_others.mp isLeft
    obtain ⟨there', keeps'⟩ := mem_others.mp isRight
    exact eq_of_columnName_eq distinct there there' keeps keeps' same
  · intro name
    rw [keys_nameFields, List.mem_map, List.mem_map]
    simp only [mem_others, List.mem_range]
    constructor
    · intro others
      obtain ⟨index, ⟨there, -⟩, named⟩ := others
      exact ⟨index, there, named⟩
    · intro all
      obtain ⟨index, there, rfl⟩ := all
      obtain ⟨place, there', keeps, same⟩ := exists_not_overwrites there
      exact ⟨place, ⟨there', keeps⟩, same⟩

theorem keepsOthers_toRecord (distinct : columns.Nodup) :
    KeepsOthers columns fields (toRecord columns false fields) := by
  have stored : ∀ index < fields.length, ¬Overwritten columns fields index →
      Dict.get? (columnName columns index) (toRecord columns false fields) =
        fields[index]?.map .text := by
    intro index there notOverwritten
    refine get?_toRecord there fun later behind laterThere same => notOverwritten ?_
    exact ⟨later, behind, overwrites_of_columnName_eq distinct behind laterThere same, same⟩
  refine ⟨?size, ?names, stored, ?replaced⟩
  case size =>
    have entries := (keys_toRecord_perm distinct fields).length_eq
    rw [Dict.keys, List.length_map, List.length_map] at entries
    have parts := (List.range fields.length).length_eq_length_filter_add
      fun index => Overwrites columns fields index
    rw [List.length_range] at parts
    rw [overwriting, entries, Nat.add_comm]
    exact parts.symm
  case names =>
    intro name
    rw [toRecord, Dict.mem_keys_ofList, keys_nameFields, List.mem_map]
    simp only [List.mem_range]
  case replaced =>
    intro index overwrites
    refine stored index overwrites.there fun overwritten => ?_
    obtain ⟨later, behind, again, same⟩ := overwritten
    exact Nat.ne_of_gt behind (columnName_inj_of_le again.surplus overwrites.surplus same)

end Records

/-! ## Rows of documents -/

/-- The names of the columns and the rows behind them, which a document without names has none of. -/
inductive Heads (context : OperationContext) (rows : List (List Bytes)) :
    List String → List (List Bytes) → Prop where
  | named {columns : List String} {rest : List (List Bytes)} :
      context.flag "hasHeader" true = true → splitHeader rows = .ok (columns, rest) →
      Heads context rows columns rest
  | unnamed : context.flag "hasHeader" true = false → Heads context rows [] rows

section Rows

variable {context : OperationContext} {session : Session} {contents : Bytes} {delimiter : UInt8}
  {columns : List String} {ahead : List (List Bytes)}

theorem delivers_rowOutcomes (provides : Provides context session.host.files contents)
    (delimited : parseDelimiter ((context.text? "delimiter").getD ",") = .ok delimiter)
    (untyped : context.flag "inferTypes" false = false)
    (heads : Heads context (rows delimiter contents) columns ahead) :
    Delivers (execute context) session (rowOutcomes columns false 1 ahead) := by
  obtain ⟨input, opened, read⟩ := provides.openInput_eq id
  have knows := Activity.liftExcept_of_ok delimited session
  refine .after knows ?_
  rw [untyped]
  refine .after opened ?_
  cases heads with
  | named hasHeader split =>
      have headed : readWithHeader delimiter session.host.files input = .ok (columns, ahead) := by
        rw [readWithHeader, read]
        exact split
      have reads := Activity.liftExcept_of_ok headed session
      have looks : Activity.host session = (.ok session.host, session) := rfl
      rw [if_pos hasHeader]
      exact .after looks (.after reads ((delivers_streamResult rfl).withMetadata _ _))
  | unnamed hasNone =>
      have holds : (input.feed (supplyOf delimiter false)).supply session.host.files =
          .ofOutcomes (rowOutcomes [] false 1 (rows delimiter contents)) := by
        rw [input.feed_supply, read]
        rfl
      rw [hasNone]
      exact (delivers_streamResult holds).withMetadata _ _

/-- What becomes of a row: a record that keeps all fields but those that a field beyond the header
overwrites, and so the whole row if there is none, or an error if the row is no text. -/
structure BecomesRecord (columns : List String) (row : List Bytes) (outcome : Outcome) : Prop where
  record : ∀ fields, decodeRow row = .ok fields → ∃ record, outcome = .ok record ∧
    KeepsOthers columns fields record ∧
    (KeepsFields columns fields record ↔ ∀ index, ¬Overwrites columns fields index)
  malformed : ∀ reason, decodeRow row = .error reason → ∃ error, outcome = .error error

theorem forall₂_rowOutcomes (distinct : columns.Nodup) (number : Nat) (ahead : List (List Bytes)) :
    List.Forall₂ (BecomesRecord columns) ahead (rowOutcomes columns false number ahead) := by
  induction ahead generalizing number with
  | nil => exact .nil
  | cons row rest ih =>
      refine .cons ⟨?_, ?_⟩ (ih (number + 1))
      · intro fields decoded
        rw [decoded]
        have keeps : KeepsOthers columns fields (toRecord columns false fields) :=
          keepsOthers_toRecord distinct
        exact ⟨_, rfl, keeps, keeps.keepsFields_iff⟩
      · intro reason undecodable
        rw [undecodable]
        exact ⟨_, rfl⟩

/-- Every row becomes a record that keeps its fields, unless a field beyond the header has the name
of a column. Such a field is stored in place of the column's own, and all others are kept. -/
theorem fields_kept_unless_overwritten (provides : Provides context session.host.files contents)
    (delimited : parseDelimiter ((context.text? "delimiter").getD ",") = .ok delimiter)
    (untyped : context.flag "inferTypes" false = false)
    (heads : Heads context (rows delimiter contents) columns ahead) (distinct : columns.Nodup) :
    ∃ outcomes, Delivers (execute context) session outcomes ∧
      List.Forall₂ (BecomesRecord columns) ahead outcomes :=
  ⟨_, delivers_rowOutcomes provides delimited untyped heads, forall₂_rowOutcomes distinct 1 ahead⟩

end Rows

/-! Sheets with a row that is longer than the header. -/

def sheet (text : String) : OperationContext :=
  .ofParameters [("content", .text text)]

theorem sheet_provides (text : String) :
    Provides (sheet text) freshSession.host.files (Files.encodeText text) :=
  .inline rfl rfl

/-- The last field of the first row costs the column that has its name. -/
theorem fields_kept_unless_overwritten_sheet :
    ∃ first second,
      Delivers (execute (sheet "column3, b\nx,y,z\nu,v\n")) freshSession
        [.ok first, .ok second] ∧
      first.length = 2 ∧ Dict.get? "b" first = some (.text "y") ∧
      Dict.get? "column3" first = some (.text "z") ∧
      KeepsFields ["column3", "b"] ["u", "v"] second := by
  have heads : Heads (sheet "column3, b\nx,y,z\nu,v\n")
      (rows 44 (Files.encodeText "column3, b\nx,y,z\nu,v\n")) ["column3", "b"]
      [["x", "y", "z"].map Files.encodeText, ["u", "v"].map Files.encodeText] :=
    .named (by decide +kernel) (by decide +kernel)
  have overwrites : Overwrites ["column3", "b"] ["x", "y", "z"] 2 :=
    ⟨by decide, by decide, by decide⟩
  have kept : ¬Overwritten ["column3", "b"] ["x", "y", "z"] 1 := by
    intro overwritten
    obtain ⟨later, -, again, same⟩ := overwritten
    obtain rfl : later = 2 := Nat.le_antisymm (Nat.le_of_lt_succ again.there) again.surplus
    exact absurd same (by decide)
  have none : ∀ index, ¬Overwrites ["column3", "b"] ["u", "v"] index := by
    intro index again
    exact absurd again.there (Nat.not_lt.mpr again.surplus)
  obtain ⟨outcomes, delivers, become⟩ := fields_kept_unless_overwritten (sheet_provides _)
    (by decide +kernel) (by decide +kernel) heads (by decide)
  obtain ⟨_, _, becomes, others, rfl⟩ := List.forall₂_cons_left_iff.mp become
  obtain ⟨_, _, becomes', nothing, rfl⟩ := List.forall₂_cons_left_iff.mp others
  cases nothing
  obtain ⟨first, rfl, keeps, -⟩ := becomes.record ["x", "y", "z"] (by decide +kernel)
  obtain ⟨second, rfl, -, whole⟩ := becomes'.record ["u", "v"] (by decide +kernel)
  have size : first.length + [2].length = 3 := keeps.size
  exact ⟨first, second, delivers, Nat.succ.inj size, keeps.stored 1 (by decide) kept,
    keeps.replaced 2 overwrites, whole.mpr none⟩

/-- With a header that has a name of a field beyond it, a field of the row is lost. -/
theorem surplus_field_overwrites :
    Heads (sheet "column2\nx,y\n") (rows 44 (Files.encodeText "column2\nx,y\n")) ["column2"]
        [["x", "y"].map Files.encodeText] ∧
      decodeRow (["x", "y"].map Files.encodeText) = .ok ["x", "y"] ∧
      Delivers (execute (sheet "column2\nx,y\n")) freshSession [.ok [("column2", .text "y")]] ∧
      ¬KeepsFields ["column2"] ["x", "y"] [("column2", .text "y")] := by
  have heads : Heads (sheet "column2\nx,y\n") (rows 44 (Files.encodeText "column2\nx,y\n"))
      ["column2"] [["x", "y"].map Files.encodeText] :=
    .named (by decide +kernel) (by decide +kernel)
  have delivers := delivers_rowOutcomes (sheet_provides _) (by decide +kernel) (by decide +kernel)
    heads
  have outcomes : rowOutcomes ["column2"] false 1 [["x", "y"].map Files.encodeText] =
      [.ok [("column2", .text "y")]] := by
    with_unfolding_all rfl
  rw [outcomes] at delivers
  refine ⟨heads, by decide +kernel, delivers, ?_⟩
  intro keeps
  exact absurd keeps.size (by decide)

end RdfPipeline.Source.Csv
