import RdfPipeline.Proofs.Decimal.Rounding
import RdfPipeline.Proofs.Json.Structure
import RdfPipeline.Proofs.Value.Structure

/-!
# Values and documents

The two readers of documents agree, and so do the two writers of values. A value comes back from its
document if its floats are finite. A document comes back from its value up to its integers beyond the
signed range, which become floats.
-/

set_option autoImplicit false

namespace RdfPipeline.Value

/-! ## The parts of documents -/

theorem ofItems_eq_map (items : List Json) : ofItems items = items.map ofJson := by
  induction items with
  | nil => rfl
  | cons item rest ih => rw [ofItems, ih, List.map_cons]

theorem ofMembers_eq_mapValues (members : List (String × Json)) :
    ofMembers members = Dict.mapValues ofJson members := by
  induction members with
  | nil => rfl
  | cons member rest ih =>
      rw [ofMembers, ih]
      rfl

theorem itemsToJson_eq_map (items : List Value) : itemsToJson items = items.map toJson := by
  induction items with
  | nil => rfl
  | cons item rest ih => rw [itemsToJson, ih, List.map_cons]

theorem entriesToJson_eq_mapValues (entries : List (String × Value)) :
    entriesToJson entries = Dict.mapValues toJson entries := by
  induction entries with
  | nil => rfl
  | cons entry rest ih =>
      rw [entriesToJson, ih]
      rfl

/-! ## Reading a document as it is written -/

theorem readScalar?_number (number : Json.Number) :
    readScalar? (.number number) = some (ofNumber number) := by
  cases number with
  | integer value lower upper =>
      cases signed : Decimal.int64? value with
      | none => simp [readScalar?, readNull?, readBool?, readInteger?, readFloat?, ofNumber, signed]
      | some word => simp [readScalar?, readNull?, readBool?, readInteger?, ofNumber, signed]
  | float value => rfl

theorem readItems?_eq {items : List Json}
    (each : ∀ item ∈ items, read? item = some (ofJson item.canonical)) :
    readItems? items = some (ofItems (Json.canonicalItems items)) := by
  induction items with
  | nil => rfl
  | cons item rest ih =>
      obtain ⟨first, others⟩ := List.forall_mem_cons.mp each
      rw [readItems?, first, ih others]
      rfl

theorem readMembers?_eq {members : List (String × Json)}
    (each : ∀ member ∈ members, read? member.2 = some (ofJson member.2.canonical))
    (known : Dict Json) :
    readMembers? (ofMembers known) members =
      some (ofMembers (Json.canonicalMembers known members)) := by
  induction members generalizing known with
  | nil => rfl
  | cons member rest ih =>
      obtain ⟨name, value⟩ := member
      obtain ⟨first, others⟩ := List.forall_mem_cons.mp each
      have inserted : Dict.insert name (ofJson value.canonical) (ofMembers known) =
          ofMembers (Dict.insert name value.canonical known) := by
        rw [ofMembers_eq_mapValues, ofMembers_eq_mapValues, Dict.mapValues_insert]
      rw [readMembers?, first, Option.bind_eq_bind, Option.bind_some, inserted, ih others]
      rfl

/-- Every document has a value as it is written, that of its canonical form. -/
theorem read?_eq (document : Json) : read? document = some (ofJson document.canonical) := by
  induction document using Json.induction with
  | null => rfl
  | bool value => rfl
  | number value => exact readScalar?_number value
  | string value => rfl
  | array items each =>
      rw [read?, readItems?_eq each]
      rfl
  | object members each =>
      have fromNothing := readMembers?_eq each []
      rw [ofMembers] at fromNothing
      rw [read?, fromNothing]
      rfl

/-! ## Writing -/

theorem itemsJsonChars_eq {items : List Value}
    (each : ∀ item ∈ items, item.jsonChars = item.toJson.chars) :
    itemsJsonChars items = Json.itemsChars (itemsToJson items) := by
  induction items with
  | nil => rfl
  | cons item rest ih =>
      obtain ⟨first, others⟩ := List.forall_mem_cons.mp each
      cases rest with
      | nil => exact first
      | cons second rest =>
          rw [itemsJsonChars, first, ih others]
          · rfl
          · exact List.cons_ne_nil _ _

theorem entriesJsonChars_eq {entries : List (String × Value)}
    (each : ∀ entry ∈ entries, entry.2.jsonChars = entry.2.toJson.chars) :
    entriesJsonChars entries = Json.membersChars (entriesToJson entries) := by
  induction entries with
  | nil => rfl
  | cons entry rest ih =>
      obtain ⟨name, value⟩ := entry
      obtain ⟨first, others⟩ := List.forall_mem_cons.mp each
      cases rest with
      | nil =>
          rw [entriesJsonChars, first]
          rfl
      | cons second rest =>
          rw [entriesJsonChars, first, ih others]
          · rfl
          · exact List.cons_ne_nil _ _

theorem jsonChars_eq (value : Value) : value.jsonChars = value.toJson.chars := by
  induction value using induction with
  | null => rfl
  | bool value => cases value <;> rfl
  | integer value => rfl
  | float value => cases value <;> rfl
  | text value => rfl
  | list items each =>
      rw [jsonChars, itemsJsonChars_eq each]
      rfl
  | map entries each =>
      rw [jsonChars, entriesJsonChars_eq each]
      rfl

/-- Reading a text as it is written gives the value of its canonical document, for every text that
is one, and writing a value directly gives the text of its document. -/
theorem json_paths_agree :
    (∀ text, (Json.parse? text).bind read? =
      (Json.parse? text).map fun document => ofJson document.canonical) ∧
    ∀ value : Value, value.serialize = value.toJson.print := by
  constructor
  · intro text
    cases Json.parse? text with
    | none => rfl
    | some document => exact read?_eq document
  · intro value
    rw [serialize, jsonChars_eq, Json.print]

/-! ## From values to documents and back -/

theorem ofJson_list (items : List Value) :
    ofJson (toJson (.list items)) = .list (items.map fun item => ofJson item.toJson) := by
  rw [toJson, ofJson, itemsToJson_eq_map, ofItems_eq_map, List.map_map]
  rfl

theorem ofJson_map (entries : List (String × Value)) :
    ofJson (toJson (.map entries)) =
      .map (entries.map fun entry => (entry.1, ofJson entry.2.toJson)) := by
  rw [toJson, ofJson, entriesToJson_eq_mapValues, ofMembers_eq_mapValues, Dict.mapValues,
    Dict.mapValues, List.map_map]
  rfl

theorem ofJson_integer (word : Int64) : ofJson (toJson (.integer word)) = .integer word := by
  have signed : Decimal.int64? word.toInt = some word := by
    rw [Decimal.int64?, dif_pos ⟨Int64.minValue_le_toInt word, Int64.toInt_le word⟩,
      Int64.ofIntLE_toInt]
  rw [toJson, ofJson, integerNumber, ofNumber, signed]

theorem ofJson_toJson {value : Value} (finite : ∀ x ∈ value.floats, x.isFinite = true) :
    ofJson value.toJson = value := by
  induction value using induction with
  | null => rfl
  | bool value => rfl
  | integer value => exact ofJson_integer value
  | float value =>
      rw [toJson, if_pos (finite value (List.mem_singleton_self value))]
      rfl
  | text value => rfl
  | list items each =>
      rw [ofJson_list, Value.list.injEq, Json.map_eq_self_iff]
      intro item member
      exact each item member fun x inside => finite x (floats_of_mem_list member inside)
  | map entries each =>
      rw [ofJson_map, Value.map.injEq, Json.map_eq_self_iff]
      intro entry member
      have same := each entry member fun x inside => finite x (floats_of_mem_map member inside)
      exact Prod.ext rfl same

theorem isFinite_of_ofJson_toJson {value : Value} (same : ofJson value.toJson = value) :
    ∀ x ∈ value.floats, x.isFinite = true := by
  induction value using induction with
  | null => simp [floats]
  | bool value => simp [floats]
  | integer value => simp [floats]
  | float value =>
      intro x inside
      obtain rfl := List.mem_singleton.mp inside
      rw [toJson] at same
      split at same
      next finite => exact finite
      next => cases same
  | text value => simp [floats]
  | list items each =>
      rw [ofJson_list, Value.list.injEq, Json.map_eq_self_iff] at same
      rw [floats_list]
      intro x inside
      obtain ⟨item, member, inItem⟩ := List.mem_flatMap.mp inside
      exact each item member (same item member) x inItem
  | map entries each =>
      rw [ofJson_map, Value.map.injEq, Json.map_eq_self_iff] at same
      rw [floats_map]
      intro x inside
      obtain ⟨entry, member, inEntry⟩ := List.mem_flatMap.mp inside
      exact each entry member (congrArg Prod.snd (same entry member)) x inEntry

/-- A value comes back from its document, integers as integers and floats as floats at every level,
exactly if it holds neither NaN nor an infinity. -/
theorem ofJson_toJson_eq_self_iff (value : Value) :
    ofJson value.toJson = value ↔ ∀ x ∈ value.floats, x.isFinite = true :=
  ⟨isFinite_of_ofJson_toJson, ofJson_toJson⟩

/-! ## Values whose maps are dictionaries -/

theorem mem_floats_of_mem_toJson {value : Value} {x : Binary64}
    (inside : Json.Number.float x ∈ value.toJson.numbers) : x ∈ value.floats := by
  induction value using induction with
  | null => cases inside
  | bool value => cases inside
  | integer value =>
      rw [toJson, Json.numbers, integerNumber] at inside
      cases inside with
      | tail _ none => cases none
  | float value =>
      rw [toJson] at inside
      split at inside
      next =>
        obtain rfl := Json.Number.float.inj (List.mem_singleton.mp inside)
        exact List.mem_singleton_self x
      next => cases inside
  | text value => cases inside
  | list items each =>
      rw [toJson, itemsToJson_eq_map, Json.numbers_array, List.flatMap_map] at inside
      obtain ⟨item, member, inItem⟩ := List.mem_flatMap.mp inside
      exact floats_of_mem_list member (each item member inItem)
  | map entries each =>
      rw [toJson, entriesToJson_eq_mapValues, Json.numbers_object, Dict.mapValues,
        List.flatMap_map] at inside
      obtain ⟨entry, member, inEntry⟩ := List.mem_flatMap.mp inside
      exact floats_of_mem_map member (each entry member inEntry)

theorem canonical_toJson {value : Value} (inOrder : value.InOrder) :
    value.toJson.canonical = value.toJson := by
  induction inOrder with
  | null => rfl
  | bool => rfl
  | integer => rfl
  | float =>
      rw [toJson]
      split <;> rfl
  | text => rfl
  | list _ each =>
      rw [toJson, Json.canonical, Json.canonicalItems_eq_map, itemsToJson_eq_map, List.map_map,
        Json.array.injEq]
      exact List.map_congr_left each
  | @map entries sorted _ each =>
      rw [toJson, Json.canonical, Json.canonicalMembers_eq_insertAll, entriesToJson_eq_mapValues,
        Json.object.injEq]
      have entrywise : Dict.mapValues Json.canonical (Dict.mapValues toJson entries) =
          Dict.mapValues toJson entries := by
        rw [Dict.mapValues, Dict.mapValues, List.map_map]
        exact List.map_congr_left fun entry member => Prod.ext rfl (each entry member)
      rw [entrywise]
      exact Dict.ofList_of_sorted (sorted.mapValues toJson)

/-- A value is read from its document as it is written. -/
theorem read?_toJson {value : Value} (inOrder : value.InOrder)
    (finite : ∀ x ∈ value.floats, x.isFinite = true) : read? value.toJson = some value := by
  rw [read?_eq, canonical_toJson inOrder, ofJson_toJson finite]

theorem inOrder_ofNumber (number : Json.Number) : (ofNumber number).InOrder := by
  cases number with
  | integer value lower upper =>
      rw [ofNumber]
      split
      · exact .integer
      · exact .float
  | float value => exact .float

theorem inOrder_of_canonical (document : Json) : (ofJson document.canonical).InOrder := by
  induction document using Json.induction with
  | null => exact .null
  | bool value => exact .bool
  | number value => exact inOrder_ofNumber value
  | string value => exact .text
  | array items each =>
      rw [Json.canonical, Json.canonicalItems_eq_map, ofJson, ofItems_eq_map, List.map_map]
      apply InOrder.list
      intro value inList
      obtain ⟨item, member, rfl⟩ := List.mem_map.mp inList
      exact each item member
  | object members each =>
      rw [Json.canonical, Json.canonicalMembers_eq_insertAll, ofJson, ofMembers_eq_mapValues,
        Dict.mapValues_insertAll]
      apply InOrder.empty.insertAll
      intro entry inMap
      rw [Dict.mapValues, Dict.mapValues, List.map_map] at inMap
      obtain ⟨member, inObject, rfl⟩ := List.mem_map.mp inMap
      exact each member inObject

/-- What is read are values whose maps are dictionaries. -/
theorem inOrder_of_read? {document : Json} {value : Value} (read : read? document = some value) :
    value.InOrder := by
  rw [read?_eq] at read
  exact Option.some.inj read ▸ inOrder_of_canonical document

/-! ## From documents to values and back -/

theorem toJson_ofNumber {number : Json.Number} (finite : number.IsFinite) :
    (ofNumber number).toJson = .number number.narrowed := by
  cases number with
  | float value =>
      rw [ofNumber, toJson]
      exact if_pos finite
  | integer value lower upper =>
      have minimum : Int64.minValue.toInt ≤ value := lower
      by_cases signed : value ≤ Int64.maxValue.toInt
      · have fits : Decimal.int64? value = some (Int64.ofIntLE value minimum signed) :=
          dif_pos ⟨minimum, signed⟩
        rw [ofNumber, fits, Json.Number.narrowed, if_pos signed]
        simp only [toJson, integerNumber, Int64.toInt_ofIntLE]
      · have tooLarge : Decimal.int64? value = none := dif_neg fun fits => signed fits.2
        have large : Int64.maxValue.toInt = 0x7FFFFFFFFFFFFFFF := by decide
        have rounded : (Binary64.ofInt value).isFinite = true := by
          apply Binary64.isFinite_ofInt
          · change 0x10000000000000 ≤ value.natAbs
            omega
          · change value.natAbs < 0x10000000000000000
            omega
        rw [ofNumber, tooLarge, Json.Number.narrowed, if_neg signed, toJson, if_pos rounded]

theorem toJson_ofJson {document : Json} (finite : ∀ number ∈ document.numbers, number.IsFinite) :
    (ofJson document).toJson = document.mapNumbers Json.Number.narrowed := by
  induction document using Json.induction with
  | null => rfl
  | bool value => rfl
  | number value => exact toJson_ofNumber (finite value (List.mem_singleton_self value))
  | string value => rfl
  | array items each =>
      rw [Json.numbers_array] at finite
      rw [Json.mapNumbers_array, ofJson, toJson, itemsToJson_eq_map, ofItems_eq_map, List.map_map,
        Json.array.injEq]
      apply List.map_congr_left
      intro item member
      exact each item member fun number inside =>
        finite number (List.mem_flatMap.mpr ⟨item, member, inside⟩)
  | object members each =>
      rw [Json.numbers_object] at finite
      rw [Json.mapNumbers_object, ofJson, toJson, entriesToJson_eq_mapValues,
        ofMembers_eq_mapValues, Dict.mapValues, Dict.mapValues, List.map_map, Json.object.injEq]
      apply List.map_congr_left
      intro member inObject
      have same := each member inObject fun number inside =>
        finite number (List.mem_flatMap.mpr ⟨member, inObject, inside⟩)
      exact Prod.ext rfl same

/-- What comes back of a document is the document with the integers beyond the signed range as
floats, and so the document itself exactly if it has no such integer. -/
theorem toJson_ofJson_eq_narrowed (document : Json)
    (finite : ∀ number ∈ document.numbers, number.IsFinite) :
    (ofJson document).toJson = document.mapNumbers Json.Number.narrowed ∧
      ((ofJson document).toJson = document ↔ ∀ number ∈ document.numbers, number.IsSigned) := by
  have narrow := toJson_ofJson finite
  rw [narrow, Json.mapNumbers_eq_self_iff]
  simp only [Json.Number.narrowed_eq_self_iff, true_and]

/-- Two readings of a counter, of which one has outgrown the signed range. -/
def counterReadings : Json :=
  .object [("readings", .array [.ofNat 9223372036854775807, .ofNat 9223372036854775808])]

theorem toJson_ofJson_eq_narrowed_counterReadings :
    (∀ number ∈ counterReadings.numbers, number.IsFinite) ∧
      (ofJson counterReadings).toJson = counterReadings.mapNumbers Json.Number.narrowed ∧
      ((ofJson counterReadings).toJson = counterReadings ↔
        ∀ number ∈ counterReadings.numbers, number.IsSigned) := by
  have finite : ∀ number ∈ counterReadings.numbers, number.IsFinite := by
    simp [counterReadings, Json.numbers, Json.itemsNumbers, Json.membersNumbers, Json.ofNat,
      Json.ofInt, Json.Number.ofInt, Json.Number.IsFinite]
  exact ⟨finite, toJson_ofJson_eq_narrowed counterReadings finite⟩

/-- The least integer beyond the signed range comes back as a float. -/
theorem toJson_ofJson_ne_of_unsigned :
    (∀ number ∈ (Json.ofNat 9223372036854775808).numbers, number.IsFinite) ∧
      (ofJson (.ofNat 9223372036854775808)).toJson ≠ .ofNat 9223372036854775808 ∧
      (ofJson (.ofNat 9223372036854775808)).toJson.print = "9.223372036854776e+18" := by
  refine ⟨?_, ?_, by decide +kernel⟩
  · simp [Json.numbers, Json.ofNat, Json.ofInt, Json.Number.ofInt, Json.Number.IsFinite]
  · intro same
    cases same

end RdfPipeline.Value
