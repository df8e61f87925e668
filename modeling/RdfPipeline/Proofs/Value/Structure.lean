import RdfPipeline.Proofs.Dict
import RdfPipeline.Value.Json

/-!
# The structure of values

Induction over values, the floats that stand in a value, and values whose maps are dictionaries at
every level. Equality of numbers is reflexive on values without NaN.
-/

set_option autoImplicit false

namespace RdfPipeline

theorem Binary64.numericallyEquals_self {x : Binary64} (isNumber : x ≠ .nan) :
    x.numericallyEquals x = true := by
  cases x with
  | nan => exact absurd rfl isNumber
  | infinite negative => simp [numericallyEquals, compare?, position?]
  | finite negative exponent fraction => simp [numericallyEquals, compare?, position?]

theorem Binary64.ne_nan_of_isFinite {x : Binary64} (finite : x.isFinite = true) : x ≠ .nan := by
  intro same
  rw [same] at finite
  cases finite

namespace Value

@[elab_as_elim]
theorem induction {motive : Value → Prop} (null : motive .null)
    (bool : ∀ value, motive (.bool value)) (integer : ∀ value, motive (.integer value))
    (float : ∀ value, motive (.float value)) (text : ∀ value, motive (.text value))
    (list : ∀ items, (∀ item ∈ items, motive item) → motive (.list items))
    (map : ∀ entries, (∀ entry ∈ entries, motive entry.2) → motive (.map entries))
    (value : Value) : motive value :=
  @Value.rec motive (fun items => ∀ item ∈ items, motive item)
    (fun entries => ∀ entry ∈ entries, motive entry.2) (fun entry => motive entry.2)
    null bool integer float text list map
    (fun _ member => absurd member List.not_mem_nil)
    (fun _ _ first rest => List.forall_mem_cons.mpr ⟨first, rest⟩)
    (fun _ member => absurd member List.not_mem_nil)
    (fun _ _ first rest => List.forall_mem_cons.mpr ⟨first, rest⟩)
    (fun _ _ value => value) value

/-! ## Floats -/

mutual

/-- All floats in a value, at any level. -/
def floats : Value → List Binary64
  | .null => []
  | .bool _ => []
  | .integer _ => []
  | .float value => [value]
  | .text _ => []
  | .list items => itemsFloats items
  | .map entries => entriesFloats entries

def itemsFloats : List Value → List Binary64
  | [] => []
  | item :: rest => floats item ++ itemsFloats rest

def entriesFloats : List (String × Value) → List Binary64
  | [] => []
  | (_, value) :: rest => floats value ++ entriesFloats rest

end

theorem floats_list (items : List Value) : (list items).floats = items.flatMap floats := by
  rw [floats]
  induction items with
  | nil => rfl
  | cons item rest ih => rw [itemsFloats, ih, List.flatMap_cons]

theorem floats_map (entries : List (String × Value)) :
    (map entries).floats = entries.flatMap fun entry => entry.2.floats := by
  rw [floats]
  induction entries with
  | nil => rfl
  | cons entry rest ih => rw [entriesFloats, ih, List.flatMap_cons]

theorem floats_of_mem_list {item : Value} {items : List Value} (member : item ∈ items) :
    item.floats ⊆ (list items).floats := by
  intro x inside
  rw [floats_list]
  exact List.mem_flatMap.mpr ⟨item, member, inside⟩

theorem floats_of_mem_map {entry : String × Value} {entries : List (String × Value)}
    (member : entry ∈ entries) : entry.2.floats ⊆ (map entries).floats := by
  intro x inside
  rw [floats_map]
  exact List.mem_flatMap.mpr ⟨entry, member, inside⟩

/-! ## Order -/

/-- The maps in a value have their keys in order, each once. -/
inductive InOrder : Value → Prop where
  | null : InOrder .null
  | bool {value} : InOrder (.bool value)
  | integer {value} : InOrder (.integer value)
  | float {value} : InOrder (.float value)
  | text {value} : InOrder (.text value)
  | list {items} : (∀ item ∈ items, InOrder item) → InOrder (.list items)
  | map {entries} :
      Dict.Sorted entries → (∀ entry ∈ entries, InOrder entry.2) → InOrder (.map entries)

theorem InOrder.insert {dict : Dict Value} {value : Value} (inOrder : (Value.map dict).InOrder)
    (key : String) (added : value.InOrder) : (Value.map (Dict.insert key value dict)).InOrder := by
  cases inOrder with
  | map sorted each =>
      apply InOrder.map (sorted.insert key value)
      intro entry member
      cases Dict.mem_insert member with
      | inl same => exact same ▸ added
      | inr there => exact each entry there

theorem InOrder.insertAll {dict : Dict Value} {entries : List (String × Value)}
    (inOrder : (Value.map dict).InOrder) (each : ∀ entry ∈ entries, entry.2.InOrder) :
    (Value.map (Dict.insertAll dict entries)).InOrder := by
  induction entries generalizing dict with
  | nil => exact inOrder
  | cons entry rest ih =>
      obtain ⟨first, others⟩ := List.forall_mem_cons.mp each
      exact ih (inOrder.insert entry.1 first) others

theorem InOrder.empty : (Value.map []).InOrder :=
  .map .nil fun _ none => absurd none List.not_mem_nil

/-! ## Equality -/

theorem equalItems_self {items : List Value} (each : ∀ item ∈ items, item.equals item = true) :
    equalItems items items = true := by
  induction items with
  | nil => rfl
  | cons item rest ih =>
      obtain ⟨first, others⟩ := List.forall_mem_cons.mp each
      rw [equalItems, first, ih others]
      rfl

theorem equalEntries_self {entries : List (String × Value)}
    (each : ∀ entry ∈ entries, entry.2.equals entry.2 = true) :
    equalEntries entries entries = true := by
  induction entries with
  | nil => rfl
  | cons entry rest ih =>
      obtain ⟨first, others⟩ := List.forall_mem_cons.mp each
      rw [equalEntries, first, ih others, beq_self_eq_true]
      rfl

theorem equals_self {value : Value} (numbers : ∀ x ∈ value.floats, x ≠ .nan) :
    value.equals value = true := by
  induction value using induction with
  | null => rfl
  | bool value => exact beq_self_eq_true value
  | integer value => exact beq_self_eq_true value
  | float value => exact Binary64.numericallyEquals_self (numbers value (List.mem_singleton_self value))
  | text value => exact beq_self_eq_true value
  | list items each =>
      apply equalItems_self
      intro item member
      exact each item member fun x inside => numbers x (floats_of_mem_list member inside)
  | map entries each =>
      apply equalEntries_self
      intro entry member
      exact each entry member fun x inside => numbers x (floats_of_mem_map member inside)

end Value

end RdfPipeline
