import RdfPipeline.Json.Basic

/-!
# The structure of documents

Induction over documents, the numbers that stand in a document, its canonical form and the levels of
its nesting.
-/

set_option autoImplicit false

namespace RdfPipeline.Json

@[elab_as_elim]
theorem induction {motive : Json → Prop} (null : motive .null)
    (bool : ∀ value, motive (.bool value)) (number : ∀ value, motive (.number value))
    (string : ∀ value, motive (.string value))
    (array : ∀ items, (∀ item ∈ items, motive item) → motive (.array items))
    (object : ∀ members, (∀ member ∈ members, motive member.2) → motive (.object members))
    (document : Json) : motive document :=
  @Json.rec motive (fun items => ∀ item ∈ items, motive item)
    (fun members => ∀ member ∈ members, motive member.2) (fun member => motive member.2)
    null bool number string array object
    (fun _ member => absurd member List.not_mem_nil)
    (fun _ _ first rest => List.forall_mem_cons.mpr ⟨first, rest⟩)
    (fun _ member => absurd member List.not_mem_nil)
    (fun _ _ first rest => List.forall_mem_cons.mpr ⟨first, rest⟩)
    (fun _ _ value => value) document

/-! ## Numbers -/

/-- Numbers other than NaN and the infinities, which no text denotes. -/
def Number.IsFinite : Number → Prop
  | .integer .. => True
  | .float value => value.isFinite = true

def Number.IsSigned : Number → Prop
  | .integer value _ _ => value ≤ Int64.maxValue.toInt
  | .float _ => True

/-- Integers beyond the signed range give way to the nearest float. -/
def Number.narrowed : Number → Number
  | .integer value lower upper =>
      if value ≤ Int64.maxValue.toInt then .integer value lower upper
      else .float (Binary64.ofInt value)
  | .float value => .float value

theorem Number.narrowed_eq_self_iff {number : Number} :
    number.narrowed = number ↔ number.IsSigned := by
  cases number with
  | integer value lower upper => simp [narrowed, IsSigned]
  | float value => simp [narrowed, IsSigned]

mutual

/-- All numbers in a document, also those in members that a later one of the same name hides. -/
def numbers : Json → List Number
  | .null => []
  | .bool _ => []
  | .number value => [value]
  | .string _ => []
  | .array items => itemsNumbers items
  | .object members => membersNumbers members

def itemsNumbers : List Json → List Number
  | [] => []
  | item :: rest => numbers item ++ itemsNumbers rest

def membersNumbers : List (String × Json) → List Number
  | [] => []
  | (_, value) :: rest => numbers value ++ membersNumbers rest

end

theorem numbers_array (items : List Json) : (array items).numbers = items.flatMap numbers := by
  rw [numbers]
  induction items with
  | nil => rfl
  | cons item rest ih => rw [itemsNumbers, ih, List.flatMap_cons]

theorem numbers_object (members : List (String × Json)) :
    (object members).numbers = members.flatMap fun member => member.2.numbers := by
  rw [numbers]
  induction members with
  | nil => rfl
  | cons member rest ih => rw [membersNumbers, ih, List.flatMap_cons]

/-! ## Replacing numbers -/

mutual

/-- The document with every number replaced. -/
def mapNumbers (f : Number → Number) : Json → Json
  | .null => .null
  | .bool value => .bool value
  | .number value => .number (f value)
  | .string value => .string value
  | .array items => .array (mapItemsNumbers f items)
  | .object members => .object (mapMembersNumbers f members)

def mapItemsNumbers (f : Number → Number) : List Json → List Json
  | [] => []
  | item :: rest => mapNumbers f item :: mapItemsNumbers f rest

def mapMembersNumbers (f : Number → Number) : List (String × Json) → List (String × Json)
  | [] => []
  | (name, value) :: rest => (name, mapNumbers f value) :: mapMembersNumbers f rest

end

theorem mapNumbers_array (f : Number → Number) (items : List Json) :
    (array items).mapNumbers f = .array (items.map (mapNumbers f)) := by
  rw [mapNumbers]
  induction items with
  | nil => rfl
  | cons item rest ih => rw [mapItemsNumbers, Json.array.inj ih, List.map_cons]

theorem mapNumbers_object (f : Number → Number) (members : List (String × Json)) :
    (object members).mapNumbers f =
      .object (members.map fun member => (member.1, member.2.mapNumbers f)) := by
  rw [mapNumbers]
  induction members with
  | nil => rfl
  | cons member rest ih => rw [mapMembersNumbers, Json.object.inj ih, List.map_cons]

theorem map_eq_self_iff {α : Type} {f : α → α} {items : List α} :
    items.map f = items ↔ ∀ item ∈ items, f item = item := by
  have pointwise : items.map f = items.map id ↔ ∀ item ∈ items, f item = id item :=
    List.map_inj_left
  rwa [List.map_id] at pointwise

theorem mapNumbers_eq_self_iff {f : Number → Number} {document : Json} :
    document.mapNumbers f = document ↔ ∀ number ∈ document.numbers, f number = number := by
  induction document using induction with
  | null => simp [mapNumbers, numbers]
  | bool value => simp [mapNumbers, numbers]
  | number value => simp [mapNumbers, numbers]
  | string value => simp [mapNumbers, numbers]
  | array items each =>
      rw [mapNumbers_array, numbers_array, Json.array.injEq, map_eq_self_iff]
      simp only [List.mem_flatMap, forall_exists_index, and_imp]
      constructor
      · intro same number item member inside
        exact (each item member).mp (same item member) number inside
      · intro same item member
        exact (each item member).mpr fun number inside => same number item member inside
  | object members each =>
      rw [mapNumbers_object, numbers_object, Json.object.injEq, map_eq_self_iff]
      simp only [List.mem_flatMap, forall_exists_index, and_imp]
      constructor
      · intro same number member inObject inside
        have sameMember := congrArg Prod.snd (same member inObject)
        exact (each member inObject).mp sameMember number inside
      · intro same member inObject
        have sameValue := (each member inObject).mpr fun number inside =>
          same number member inObject inside
        exact Prod.ext rfl sameValue

/-! ## Canonical form -/

theorem canonicalItems_eq_map (items : List Json) : canonicalItems items = items.map canonical := by
  induction items with
  | nil => rfl
  | cons item rest ih => rw [canonicalItems, ih, List.map_cons]

theorem canonicalMembers_eq_insertAll (known : Dict Json) (members : List (String × Json)) :
    canonicalMembers known members = known.insertAll (Dict.mapValues canonical members) := by
  induction members generalizing known with
  | nil => rfl
  | cons member rest ih =>
      rw [canonicalMembers, ih]
      rfl

/-! ## Nesting -/

mutual

/-- How many arrays and objects are around the deepest place of a document. -/
def depth : Json → Nat
  | .null => 0
  | .bool _ => 0
  | .number _ => 0
  | .string _ => 0
  | .array items => itemsDepth items + 1
  | .object members => membersDepth members + 1

def itemsDepth : List Json → Nat
  | [] => 0
  | item :: rest => max (depth item) (itemsDepth rest)

def membersDepth : List (String × Json) → Nat
  | [] => 0
  | (_, value) :: rest => max (depth value) (membersDepth rest)

end

theorem depth_lt_of_mem_items {item : Json} {items : List Json} (member : item ∈ items) :
    item.depth < (array items).depth := by
  rw [depth, Nat.lt_succ_iff]
  induction items with
  | nil => cases member
  | cons first rest ih =>
      rw [itemsDepth]
      cases member with
      | head => exact Nat.le_max_left _ _
      | tail _ later => exact Nat.le_trans (ih later) (Nat.le_max_right _ _)

theorem depth_lt_of_mem_members {member : String × Json} {members : List (String × Json)}
    (inObject : member ∈ members) : member.2.depth < (object members).depth := by
  rw [depth, Nat.lt_succ_iff]
  induction members with
  | nil => cases inObject
  | cons first rest ih =>
      rw [membersDepth]
      cases inObject with
      | head => exact Nat.le_max_left _ _
      | tail _ later => exact Nat.le_trans (ih later) (Nat.le_max_right _ _)

end RdfPipeline.Json
