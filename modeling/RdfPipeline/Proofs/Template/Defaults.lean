import Mathlib.Data.Finset.Max
import Mathlib.Data.List.Forall2
import RdfPipeline.Proofs.Template.Rendering

/-!
# Default templates

A default template has one expression for each key column, and the expression is the name of the
column as it is. There is no way to write a blank or a mark that belongs to the name. So a template
addresses its columns exactly if no name has blanks around it or a mark in front, and then it expands
to the base and the encoded values behind it.
-/

set_option autoImplicit false

namespace RdfPipeline.Template

/-! ## Names of columns -/

/-- The variable that the expression of a column names. -/
def addressed (column : String) : String :=
  String.ofList (nameIn column.toList)

/-- An expression that is the name names just this variable, with no mark. -/
structure IsPlain (name : List Char) : Prop where
  nonempty : name ≠ []
  trimmed : Text.IsTrimmed name
  unmarked : ∀ c ∈ name.head?, Modifier.ofChar? c = none

namespace IsPlain

variable {name : List Char}

theorem nameIn_eq (plain : IsPlain name) : nameIn name = name := by
  rw [nameIn, plain.trimmed.trimChars_eq, dropMark_of_unmarked plain.unmarked,
    plain.trimmed.trimChars_eq]

theorem modifierIn_eq (plain : IsPlain name) : modifierIn name = .simple := by
  rw [modifierIn, plain.trimmed.trimChars_eq, Option.bind_eq_none_iff.mpr plain.unmarked]
  rfl

end IsPlain

/-- A mark in front of a name is always taken off. -/
theorem isPlain_of_nameIn_eq {name : List Char} (nonempty : name ≠ []) (kept : nameIn name = name) :
    IsPlain name := by
  have trimmed : Text.IsTrimmed name := kept ▸ Text.isTrimmed_trimChars (dropMark _)
  refine ⟨nonempty, trimmed, fun mark first => ?_⟩
  obtain ⟨rest, rfl⟩ := List.head?_eq_some_iff.mp first
  cases marks : Modifier.ofChar? mark with
  | none => rfl
  | some modifier =>
      rw [nameIn, trimmed.trimChars_eq, dropMark_cons marks] at kept
      have shorter := (Text.trimChars_sublist rest).length_le
      rw [kept] at shorter
      exact absurd shorter (Nat.not_succ_le_self _)

theorem addressed_eq_iff {column : String} :
    addressed column = column ↔ nameIn column.toList = column.toList := by
  rw [addressed, ← String.toList_inj, String.toList_ofList]

theorem length_addressed_lt {column : String} (changed : addressed column ≠ column) :
    (addressed column).length < column.length := by
  have within := nameIn_sublist column.toList
  rw [addressed, String.length_ofList, ← String.length_toList]
  exact Nat.lt_of_le_of_ne within.length_le fun same =>
    changed (addressed_eq_iff.mpr (within.eq_of_length same))

/-- Among the columns with a changed name there is a longest one, and it is the name of none. -/
theorem addressed_eq_of_same_names {columns : List String}
    (same : ∀ column ∈ columns, column ∈ columns.map addressed) :
    ∀ column ∈ columns, addressed column = column := by
  by_contra some
  obtain ⟨column, listed, changed⟩ : ∃ column ∈ columns, addressed column ≠ column := by
    simpa using some
  let altered := columns.toFinset.filter fun column => addressed column ≠ column
  have isAltered (column : String) :
      column ∈ altered ↔ column ∈ columns ∧ addressed column ≠ column := by simp [altered]
  obtain ⟨longest, isLongest, most⟩ :=
    altered.exists_max_image String.length ⟨column, (isAltered column).mpr ⟨listed, changed⟩⟩
  obtain ⟨longestListed, longestChanged⟩ := (isAltered longest).mp isLongest
  obtain ⟨other, otherListed, names⟩ := List.mem_map.mp (same longest longestListed)
  by_cases otherKept : addressed other = other
  · rw [otherKept] at names
    exact longestChanged (names ▸ otherKept)
  · have shorter := length_addressed_lt otherKept
    rw [names] at shorter
    exact absurd (most other ((isAltered other).mpr ⟨otherListed, otherKept⟩))
      (Nat.not_le_of_lt shorter)

/-! ## The text of a default template -/

/-- The base, ended by a slash. -/
def closedBase (base : String) : String :=
  if base.toList.getLast? = some '/' then base else base ++ "/"

/-- The first expression stands behind the base, and every other one behind a slash. -/
def defaultSpelling (base : String) : List String → Spelling
  | [] => ⟨[], (closedBase base).toList⟩
  | first :: rest =>
      ⟨⟨(closedBase base).toList, first.toList⟩ ::
        rest.map fun column => ⟨['/'], column.toList⟩, []⟩

theorem toList_intercalate_slash (first : String) (rest : List String) :
    (String.intercalate "/" (first :: rest)).toList =
      first.toList ++ rest.flatMap fun text => '/' :: text.toList := by
  rw [String.toList_intercalate, List.map_cons]
  induction rest generalizing first with
  | nil => simp
  | cons next rest ih =>
      rw [List.map_cons, List.intercalate_cons_cons, ih, List.flatMap_cons, List.append_assoc]
      rfl

theorem toList_defaultFor (base : String) (columns : List String) :
    (defaultFor base columns).toList = (defaultSpelling base columns).written := by
  have text : defaultFor base columns = closedBase base ++
      String.intercalate "/" (columns.map fun name => "\x7b" ++ name ++ "\x7d") := rfl
  rw [text, String.toList_append]
  cases columns with
  | nil => simp [defaultSpelling, Spelling.written]
  | cons first rest =>
      rw [List.map_cons, toList_intercalate_slash]
      simp [defaultSpelling, Spelling.written, Piece.written, List.flatMap_map]

section Pieces

variable {base : String} {columns : List String}

theorem no_opening_closedBase (baseNoOpening : '\x7b' ∉ base.toList) :
    '\x7b' ∉ (closedBase base).toList := by
  unfold closedBase
  split
  · exact baseNoOpening
  · simpa using baseNoOpening

theorem map_expression_defaultSpelling (base : String) (columns : List String) :
    (defaultSpelling base columns).pieces.map Piece.expression = columns.map String.toList := by
  cases columns with
  | nil => rfl
  | cons first rest => simp [defaultSpelling]

theorem no_opening_defaultSpelling (baseNoOpening : '\x7b' ∉ base.toList)
    (columns : List String) :
    (∀ piece ∈ (defaultSpelling base columns).pieces, '\x7b' ∉ piece.literal) ∧
      '\x7b' ∉ (defaultSpelling base columns).tail := by
  have start := no_opening_closedBase baseNoOpening
  cases columns with
  | nil => exact ⟨nofun, start⟩
  | cons first rest => simp [defaultSpelling, start]

theorem forall_expression_defaultSpelling (base : String) (columns : List String)
    (P : List Char → Prop) :
    (∀ piece ∈ (defaultSpelling base columns).pieces, P piece.expression) ↔
      ∀ column ∈ columns, P column.toList := by
  have ofColumns : (∀ chars ∈ columns.map String.toList, P chars) ↔
      ∀ column ∈ columns, P column.toList := List.forall_mem_map
  rw [← ofColumns, ← map_expression_defaultSpelling base columns, List.forall_mem_map]

theorem parse_defaultFor_eq_ok_iff (baseNoOpening : '\x7b' ∉ base.toList)
    (noBrace : ∀ column ∈ columns, HasNoBrace column.toList) (template : Template) :
    parse (defaultFor base columns) = .ok template ↔
      (∀ column ∈ columns, nameIn column.toList ≠ []) ∧
        template = ⟨defaultFor base columns, (defaultSpelling base columns).segments⟩ := by
  obtain ⟨literals, tail⟩ := no_opening_defaultSpelling baseNoOpening columns
  have expressions := (forall_expression_defaultSpelling base columns HasNoBrace).mpr noBrace
  have names := forall_expression_defaultSpelling base columns (nameIn · ≠ [])
  rw [← names]
  exact parse_pieces_eq_ok_iff (toList_defaultFor base columns) literals expressions tail

end Pieces

/-! ## Variables and expansion -/

theorem filterMap_variable?_segments (spelling : Spelling) :
    spelling.segments.filterMap Segment.variable? = spelling.pieces.map Piece.placeholder := by
  rw [Spelling.segments, List.filterMap_eq_flatMap_toList, flatMap_withoutEmpty rfl,
    List.flatMap_append, List.flatMap_assoc, List.map_eq_flatMap]
  exact List.append_nil _

theorem map_name_placeholders_defaultSpelling (text base : String) (columns : List String) :
    (placeholders ⟨text, (defaultSpelling base columns).segments⟩).map (·.name) =
      (columns.map addressed).eraseDups := by
  have names : (defaultSpelling base columns).pieces.map (·.placeholder.name) =
      columns.map addressed := by
    have expressions := map_expression_defaultSpelling base columns
    have each := congrArg (List.map fun chars => String.ofList (nameIn chars)) expressions
    rwa [List.map_map, List.map_map] at each
  rw [map_name_placeholders, filterMap_variable?_segments, List.map_map]
  exact congrArg List.eraseDups names

theorem toList_expandWith_segments (text : String) (spelling : Spelling)
    (lookup : String → Option String) (encode : Modifier → String → String) :
    (expandWith ⟨text, spelling.segments⟩ lookup encode).toList =
      spelling.pieces.flatMap (fun piece =>
        piece.literal ++ (expandSegment lookup encode (.variable piece.placeholder)).toList) ++
      spelling.tail := by
  have nothing : (expandSegment lookup encode (.literal "")).toList = [] := rfl
  rw [expandWith, String.toList_join, List.flatMap_map, Spelling.segments,
    flatMap_withoutEmpty nothing, List.flatMap_append, List.flatMap_assoc]
  simp [Piece.segments, expandSegment]

/-- The record has the value under the name of the column, and it is not null. -/
def Binds (record : Record) (column : String) (value : Value) : Prop :=
  Dict.get? column record = some value ∧ value.isNull = false

section Expansion

variable {record : Record}

theorem expandSegment_of_plain {column : String} {value : Value} (plain : IsPlain column.toList)
    (binds : Binds record column value) (literal : List Char) :
    expandSegment (fieldText? record) encodeFor (.variable (Piece.placeholder
      ⟨literal, column.toList⟩)) = encodeValue value.toText := by
  have text : fieldText? record column = some value.toText := by
    simp [fieldText?, binds.1, binds.2]
  rw [Piece.placeholder, plain.nameIn_eq, plain.modifierIn_eq, String.ofList_toList]
  simp [expandSegment, text, Modifier.lead, encodeFor]

theorem flatMap_expandSegment_of_plain {columns : List String} {values : List Value}
    (plain : ∀ column ∈ columns, IsPlain column.toList)
    (bound : List.Forall₂ (Binds record) columns values) :
    (columns.map fun column => (⟨['/'], column.toList⟩ : Piece)).flatMap (fun piece =>
        piece.literal ++ (expandSegment (fieldText? record) encodeFor
          (.variable piece.placeholder)).toList) =
      (values.map fun value => encodeValue value.toText).flatMap fun text => '/' :: text.toList := by
  induction bound with
  | nil => rfl
  | cons binds _ ih =>
      obtain ⟨first, others⟩ := List.forall_mem_cons.mp plain
      rw [List.map_cons, List.flatMap_cons, ih others, expandSegment_of_plain first binds]
      rfl

theorem expand_defaultSpelling (text base : String) {columns : List String} {values : List Value}
    (plain : ∀ column ∈ columns, IsPlain column.toList)
    (bound : List.Forall₂ (Binds record) columns values) :
    expand ⟨text, (defaultSpelling base columns).segments⟩ record =
      closedBase base ++
        String.intercalate "/" (values.map fun value => encodeValue value.toText) := by
  rw [← String.toList_inj, expand, toList_expandWith_segments, String.toList_append]
  cases bound with
  | nil => simp [defaultSpelling]
  | cons binds others =>
      obtain ⟨first, rest⟩ := List.forall_mem_cons.mp plain
      rw [List.map_cons, toList_intercalate_slash, ← flatMap_expandSegment_of_plain rest others,
        defaultSpelling, List.flatMap_cons, expandSegment_of_plain first binds, List.append_nil,
        List.append_assoc]

end Expansion

/-- A default template is parsed unless the name of some column is at most a mark, blanks aside. Its
variables are the columns without the blanks around them and without one mark, each where it first
appears, so they are the columns themselves exactly if no column has such a blank or mark. Then a
record with a value for each column expands to the base and the encoded values behind it. -/
theorem defaultFor_addresses_plain_columns {base : String} {columns : List String}
    (baseNoOpening : '\x7b' ∉ base.toList)
    (noBrace : ∀ column ∈ columns, HasNoBrace column.toList) :
    ((∃ template, parse (defaultFor base columns) = .ok template) ↔
      ∀ column ∈ columns, nameIn column.toList ≠ []) ∧
    (∀ template, parse (defaultFor base columns) = .ok template →
      template.placeholders.map (·.name) = (columns.map addressed).eraseDups ∧
      (template.placeholders.map (·.name) = columns.eraseDups ↔
        ∀ column ∈ columns, IsPlain column.toList)) ∧
    ((∀ column ∈ columns, IsPlain column.toList) →
      ∃ template, parse (defaultFor base columns) = .ok template ∧
        template.placeholders.map (·.name) = columns.eraseDups ∧
        ∀ record values, List.Forall₂ (Binds record) columns values →
          template.expand record = closedBase base ++
            String.intercalate "/" (values.map fun value => encodeValue value.toText)) := by
  have parsed_iff := parse_defaultFor_eq_ok_iff baseNoOpening noBrace
  have kept (plain : ∀ column ∈ columns, IsPlain column.toList) :
      columns.map addressed = columns :=
    (List.map_congr_left fun column listed =>
      addressed_eq_iff.mpr (plain column listed).nameIn_eq).trans (List.map_id columns)
  have names := map_name_placeholders_defaultSpelling (defaultFor base columns) base columns
  refine ⟨⟨?named, ?accepted⟩, fun template parsed => ?placeholders, fun plain => ?expansion⟩
  case named =>
    rintro ⟨template, parsed⟩
    exact ((parsed_iff template).mp parsed).1
  case accepted => exact fun named => ⟨_, (parsed_iff _).mpr ⟨named, rfl⟩⟩
  case placeholders =>
    obtain ⟨named, rfl⟩ := (parsed_iff template).mp parsed
    refine ⟨names, fun same column listed => ?_, fun plain => by rw [names, kept plain]⟩
    have listedNames : ∀ column ∈ columns, column ∈ columns.map addressed := by
      intro column listed
      rw [← List.mem_eraseDups, ← names, same, List.mem_eraseDups]
      exact listed
    have unchanged := addressed_eq_of_same_names listedNames column listed
    have nonempty : column.toList ≠ [] := by
      intro empty
      exact named column listed (by rw [empty]; rfl)
    exact isPlain_of_nameIn_eq nonempty (addressed_eq_iff.mp unchanged)
  case expansion =>
    have named : ∀ column ∈ columns, nameIn column.toList ≠ [] := by
      intro column listed
      rw [(plain column listed).nameIn_eq]
      exact (plain column listed).nonempty
    refine ⟨_, (parsed_iff _).mpr ⟨named, rfl⟩, by rw [names, kept plain], ?_⟩
    exact fun record values bound => expand_defaultSpelling _ base plain bound

/-! A key with a repeated column, and one column whose name starts with a mark. -/

def stayKey : List String :=
  ["hotel", "night", "hotel"]

def stay : Record :=
  [("hotel", .text "Grand Budapest"), ("night", .integer 3)]

theorem defaultFor_addresses_plain_columns_stay :
    '\x7b' ∉ "http://ex.org/stay".toList ∧ (∀ column ∈ stayKey, HasNoBrace column.toList) ∧
      (∀ column ∈ stayKey, IsPlain column.toList) ∧
      ∃ template, parse (defaultFor "http://ex.org/stay" stayKey) = .ok template ∧
        template.placeholders.map (·.name) = ["hotel", "night"] ∧
        template.expand stay = "http://ex.org/stay/Grand_Budapest/3/Grand_Budapest" := by
  have baseNoOpening : '\x7b' ∉ "http://ex.org/stay".toList := by decide
  have noBrace : ∀ column ∈ stayKey, HasNoBrace column.toList := by
    unfold HasNoBrace
    decide
  have plain : ∀ column ∈ stayKey, IsPlain column.toList := by
    have hotel : IsPlain "hotel".toList := isPlain_of_nameIn_eq (by decide) (by decide)
    have night : IsPlain "night".toList := isPlain_of_nameIn_eq (by decide) (by decide)
    simp only [stayKey, List.forall_mem_cons]
    exact ⟨hotel, night, hotel, nofun⟩
  obtain ⟨-, -, addresses⟩ := defaultFor_addresses_plain_columns baseNoOpening noBrace
  obtain ⟨template, parsed, names, expands⟩ := addresses plain
  have bound : List.Forall₂ (Binds stay) stayKey
      [.text "Grand Budapest", .integer 3, .text "Grand Budapest"] :=
    .cons ⟨rfl, rfl⟩ (.cons ⟨rfl, rfl⟩ (.cons ⟨rfl, rfl⟩ .nil))
  refine ⟨baseNoOpening, noBrace, plain, template, parsed, names.trans (by decide), ?_⟩
  exact (expands stay _ bound).trans (by decide +kernel)

def markedColumnTemplate : Template where
  source := "http://ex.org/\x7b+x\x7d"
  segments := [.literal "http://ex.org/", .variable ⟨"x", .reserved⟩]

/-- The mark in front of a name is taken as a modifier, and a mark alone leaves no name. -/
theorem defaultFor_misses_marked_column :
    Binds [("+x", .text "A")] "+x" (.text "A") ∧
      parse (defaultFor "http://ex.org/" ["+x"]) = .ok markedColumnTemplate ∧
      markedColumnTemplate.placeholders.map (·.name) = ["x"] ∧
      markedColumnTemplate.expand [("+x", .text "A")] = "http://ex.org/" ∧
      closedBase "http://ex.org/" ++ encodeValue "A" = "http://ex.org/A" ∧
      parse (defaultFor "http://ex.org/" ["+"]) =
        .error (.template "http://ex.org/\x7b+\x7d" "empty variable name at offset 14") := by
  refine ⟨⟨rfl, rfl⟩, ?_, by decide, by decide +kernel, by decide +kernel, ?_⟩
  · with_unfolding_all rfl
  · with_unfolding_all rfl

end RdfPipeline.Template
