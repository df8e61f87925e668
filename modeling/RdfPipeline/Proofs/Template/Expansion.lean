import RdfPipeline.Proofs.Dict
import RdfPipeline.Proofs.Template.Defaults

/-!
# What an expansion depends on

Every segment of a template adds its own text to an expansion, and the distinct variables have all
names that segments ask for, also where a name has several modifiers. So the values under these names
decide the expansion. Without its value a name takes the texts of its own segments out, marks
included, and leaves all others as they are.
-/

set_option autoImplicit false

namespace RdfPipeline.Template

/-! ## Variables -/

theorem exists_placeholder {template : Template} {placeholder : Variable}
    (member : .variable placeholder ∈ template.segments) :
    ∃ named ∈ template.placeholders, named.name = placeholder.name := by
  have isName : placeholder.name ∈ template.placeholders.map (·.name) := by
    rw [map_name_placeholders, List.mem_eraseDups]
    exact List.mem_map_of_mem (List.mem_filterMap.mpr ⟨_, member, rfl⟩)
  exact List.mem_map.mp isName

theorem expandWith_congr {template : Template} {left right : String → Option String}
    (agree : ∀ placeholder ∈ template.placeholders, left placeholder.name = right placeholder.name)
    (encode : Modifier → String → String) :
    template.expandWith left encode = template.expandWith right encode := by
  refine congrArg String.join (List.map_congr_left fun segment member => ?_)
  cases segment with
  | literal text => rfl
  | «variable» placeholder =>
      obtain ⟨named, listed, sameName⟩ := exists_placeholder member
      have same := agree named listed
      rw [sameName] at same
      rw [expandSegment, expandSegment, same]

/-! ## Bindings -/

/-- The records have the same values under the names. A null value counts as none. -/
def AgreeOn (names : List String) (left right : Record) : Prop :=
  ∀ name ∈ names, ∀ value, Binds left name value ↔ Binds right name value

/-- The second record has no value under the name and is like the first under all others. -/
structure Unbinds (name : String) (record without : Record) : Prop where
  unbound : ∀ value, ¬Binds without name value
  others : ∀ other, other ≠ name → ∀ value, Binds without other value ↔ Binds record other value

theorem fieldText?_eq_some_iff {record : Record} {name text : String} :
    fieldText? record name = some text ↔ ∃ value, Binds record name value ∧ value.toText = text := by
  unfold fieldText? Binds
  cases Dict.get? name record with
  | none => simp
  | some value => cases null : value.isNull <;> simp [null]

theorem fieldText?_eq_none_iff {record : Record} {name : String} :
    fieldText? record name = none ↔ ∀ value, ¬Binds record name value := by
  rw [Option.eq_none_iff_forall_ne_some]
  simp only [Ne, fieldText?_eq_some_iff, not_exists, not_and]
  exact ⟨fun missing value binds => missing _ value binds rfl,
    fun unbound _ value binds => absurd binds (unbound value)⟩

theorem fieldText?_congr {left right : Record} {name : String}
    (same : ∀ value, Binds left name value ↔ Binds right name value) :
    fieldText? left name = fieldText? right name := by
  ext text
  simp only [fieldText?_eq_some_iff, same]

theorem unbinds_filter (name : String) (record : Record) :
    Unbinds name record (record.filter fun entry => entry.1 != name) where
  unbound value := by simp [Binds, Dict.get?_filter_ne]
  others other different value := by simp only [Binds, Dict.get?_filter_ne, if_neg different]

theorem unbinds_insert_null (name : String) (record : Record) :
    Unbinds name record (Dict.insert name .null record) where
  unbound value := by
    rintro ⟨found, notNull⟩
    rw [Dict.get?_insert, if_pos rfl] at found
    cases found
    cases notNull
  others other different value := by simp only [Binds, Dict.get?_insert, if_neg different]

/-! ## Texts of segments -/

/-- The text that a segment adds to an expansion: a literal itself, a variable its value behind its
mark, and nothing without a value. -/
inductive Adds (record : Record) : Segment → String → Prop where
  | literal (text : String) : Adds record (.literal text) text
  | value {placeholder : Variable} {value : Value} :
      Binds record placeholder.name value →
      Adds record (.variable placeholder)
        (placeholder.modifier.lead ++ encodeFor placeholder.modifier value.toText)
  | nothing {placeholder : Variable} :
      (∀ value, ¬Binds record placeholder.name value) → Adds record (.variable placeholder) ""

def addition (record : Record) (segment : Segment) : String :=
  expandSegment (fieldText? record) encodeFor segment

theorem adds_addition (record : Record) (segment : Segment) :
    Adds record segment (addition record segment) := by
  cases segment with
  | literal text => exact .literal text
  | «variable» placeholder =>
      rw [addition, expandSegment]
      cases found : fieldText? record placeholder.name with
      | none => exact .nothing (fieldText?_eq_none_iff.mp found)
      | some text =>
          obtain ⟨value, binds, rfl⟩ := fieldText?_eq_some_iff.mp found
          exact .value binds

/-- Whether the segment asks for the name. -/
def Segment.names (name : String) : Segment → Bool
  | .literal _ => false
  | .variable placeholder => placeholder.name == name

theorem Unbinds.addition_eq {name : String} {record without : Record}
    (unbinds : Unbinds name record without) (segment : Segment) :
    addition without segment = if segment.names name then "" else addition record segment := by
  cases segment with
  | literal text => rfl
  | «variable» placeholder =>
      rw [addition, addition, expandSegment, expandSegment, Segment.names]
      by_cases same : placeholder.name = name
      · rw [if_pos (beq_iff_eq.mpr same), same, fieldText?_eq_none_iff.mpr unbinds.unbound]
      · rw [if_neg (mt beq_iff_eq.mp same), fieldText?_congr (unbinds.others _ same)]

theorem join_map_ite_empty (dropped : Segment → Bool) (text : Segment → String)
    (segments : List Segment) :
    String.join (segments.map fun segment => if dropped segment then "" else text segment) =
      String.join ((segments.filter fun segment => !dropped segment).map text) := by
  induction segments with
  | nil => rfl
  | cons segment rest ih =>
      rw [List.map_cons, String.join_cons, ih]
      cases drop : dropped segment with
      | true => simp [drop]
      | false => simp [drop]

/-! ## Expansions -/

/-- Records that agree on the names of the reported variables are expanded alike. An expansion joins
what its segments add, and without a value under a name it joins what all segments add that do not
ask for the name. -/
theorem expand_reads_placeholders (template : Template) :
    (∀ left right, AgreeOn (template.placeholders.map (·.name)) left right →
      template.expand left = template.expand right) ∧
    (∀ record, (∀ segment ∈ template.segments, Adds record segment (addition record segment)) ∧
      template.expand record = String.join (template.segments.map (addition record)) ∧
      ∀ name without, Unbinds name record without →
        template.expand without = String.join
          ((template.segments.filter fun segment => !segment.names name).map (addition record))) ∧
    ∀ (record : Record) name, Unbinds name record (record.filter fun entry => entry.1 != name) ∧
      Unbinds name record (Dict.insert name .null record) := by
  refine ⟨fun left right agree => ?determined,
    fun record => ⟨fun segment _ => adds_addition record segment, rfl, ?without⟩,
    fun record name => ⟨unbinds_filter name record, unbinds_insert_null name record⟩⟩
  case determined =>
    refine expandWith_congr (fun placeholder listed => ?_) encodeFor
    exact fieldText?_congr (agree _ (List.mem_map_of_mem listed))
  case without =>
    intro name without unbinds
    rw [← join_map_ite_empty]
    exact congrArg String.join (List.map_congr_left fun segment _ => unbinds.addition_eq segment)

/-! A name with two modifiers. -/

def shelfTemplate : Template where
  source := "http://ex.org/\x7bid\x7d\x7b/city\x7d\x7b#id\x7d"
  segments :=
    [ .literal "http://ex.org/", .variable ⟨"id", .simple⟩, .variable ⟨"city", .path⟩,
      .variable ⟨"id", .fragment⟩ ]

def shelf : Record :=
  [("city", .text "Bern"), ("id", .text "A 7")]

def unnumberedShelf : Record :=
  [("city", .text "Bern"), ("id", .null), ("note", .text "new")]

theorem expand_reads_placeholders_shelf :
    parse shelfTemplate.source = .ok shelfTemplate ∧
      shelfTemplate.expand shelf = "http://ex.org/A_7/Bern#A_7" ∧
      Unbinds "id" shelf (shelf.filter fun entry => entry.1 != "id") ∧
      shelfTemplate.expand (shelf.filter fun entry => entry.1 != "id") = "http://ex.org//Bern" ∧
      AgreeOn (shelfTemplate.placeholders.map (·.name))
        (shelf.filter fun entry => entry.1 != "id") unnumberedShelf ∧
      shelfTemplate.expand unnumberedShelf = "http://ex.org//Bern" := by
  obtain ⟨determined, joined, unbinds⟩ := expand_reads_placeholders shelfTemplate
  obtain ⟨-, whole, without⟩ := joined shelf
  have unnumbered := (unbinds shelf "id").1
  have names : shelfTemplate.placeholders.map (·.name) = ["id", "city"] := by decide
  have agree : AgreeOn (shelfTemplate.placeholders.map (·.name))
      (shelf.filter fun entry => entry.1 != "id") unnumberedShelf := by
    rw [names]
    refine List.forall_mem_cons.mpr ⟨fun value => ?_, List.forall_mem_singleton.mpr fun _ => Iff.rfl⟩
    refine iff_of_false (unnumbered.unbound value) ?_
    rintro ⟨found, notNull⟩
    cases found
    cases notNull
  have remaining : String.join ((shelfTemplate.segments.filter fun segment =>
      !segment.names "id").map (addition shelf)) = "http://ex.org//Bern" := by decide +kernel
  have expanded := (without "id" _ unnumbered).trans remaining
  exact ⟨by with_unfolding_all rfl, whole.trans (by decide +kernel), unnumbered, expanded, agree,
    (determined _ _ agree).symm.trans expanded⟩

end RdfPipeline.Template
