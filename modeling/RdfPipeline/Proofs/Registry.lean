import Mathlib.Algebra.GroupWithZero.Nat
import Mathlib.Data.Finset.Card
import Mathlib.Data.List.Dedup
import RdfPipeline.Proofs.Dict
import RdfPipeline.Registry

/-!
# What a registry holds

However often ids are registered again, and with whatever types, both indices of a registry hold the
same operations: the last ones of their ids, in the order in which these were registered.
-/

set_option autoImplicit false

namespace RdfPipeline

/-! ## Last registrations -/

/-- The registrations that no later one of the same id follows, in their order. -/
def lastRegistrations (operations : List Operation) : List Operation :=
  operations.pwFilter fun earlier later => earlier.id ≠ later.id

theorem lastRegistrations_cons (operation : Operation) (operations : List Operation) :
    lastRegistrations (operation :: operations) =
      if ∀ later ∈ operations, operation.id ≠ later.id then
        operation :: lastRegistrations operations
      else lastRegistrations operations := by
  have keptSuffice := List.forall_mem_pwFilter
    (R := fun earlier later : Operation => earlier.id ≠ later.id)
    (fun {earlier between later} differ => by
      by_cases same : earlier.id = between.id
      · exact .inr (same ▸ differ)
      · exact .inl same)
    operation operations
  split
  next last => exact List.pwFilter_cons_of_pos (keptSuffice.mpr last)
  next replaced => exact List.pwFilter_cons_of_neg (mt keptSuffice.mp replaced)

/-- A registration takes the place of the one that its id had, at the end of the order. -/
theorem lastRegistrations_concat (operations : List Operation) (operation : Operation) :
    lastRegistrations (operations ++ [operation]) =
      (lastRegistrations operations).filter (·.id != operation.id) ++ [operation] := by
  induction operations with
  | nil => rfl
  | cons first rest ih =>
      rw [List.cons_append, lastRegistrations_cons, lastRegistrations_cons, ih]
      by_cases same : first.id = operation.id
      · have replaced : ¬ ∀ later ∈ rest ++ [operation], first.id ≠ later.id := fun last =>
          last operation (by simp) same
        rw [if_neg replaced]
        split
        · simp [same]
        · rfl
      · by_cases last : ∀ later ∈ rest, first.id ≠ later.id
        · have stillLast : ∀ later ∈ rest ++ [operation], first.id ≠ later.id := by
            simpa [or_imp, forall_and] using ⟨last, same⟩
          rw [if_pos last, if_pos stillLast, List.filter_cons_of_pos (by simpa using same)]
          rfl
        · have replaced : ¬ ∀ later ∈ rest ++ [operation], first.id ≠ later.id := fun stillLast =>
            last fun later member => stillLast later (List.mem_append_left _ member)
          rw [if_neg last, if_neg replaced]

/-! ## Both indices -/

namespace Registry

/-- Both indices hold exactly these operations, no two of which have the same id. -/
structure Holds (registry : Registry) (operations : List Operation) : Prop where
  distinct : (operations.map (·.id)).Nodup
  sorted : registry.byId.Sorted
  get?_iff : ∀ {id operation},
    registry.get? id = some operation ↔ operation ∈ operations ∧ operation.id = id
  byType : ∀ type, registry.byType type = operations.filter (·.type = type)

theorem get?_register (registry : Registry) (operation : Operation) (id : String) :
    (registry.register operation).get? id =
      if id = operation.id then some operation else registry.get? id :=
  Dict.get?_insert _ _ _ _

namespace Holds

variable {registry : Registry} {operations : List Operation}

theorem empty : Registry.empty.Holds [] where
  distinct := .nil
  sorted := .nil
  get?_iff := by simp [Registry.empty, get?, Dict.get?]
  byType _ := rfl

/-- An id that is registered again leaves the list of the type that it had; in the lists of the
other types it has not been. -/
theorem withdraw (holds : registry.Holds operations) (id : String) (type : OperationType) :
    registry.withdraw id type = (operations.filter (·.id != id)).filter (·.type = type) := by
  have withoutId : (operations.filter (·.id != id)).filter (·.type = type) =
      (registry.byType type).filter (·.id != id) := by
    rw [holds.byType, List.filter_filter, List.filter_filter]
    simp only [Bool.and_comm]
  rw [withoutId, Registry.withdraw]
  cases found : registry.get? id with
  | none =>
      dsimp only
      refine (List.filter_eq_self.mpr ?_).symm
      intro operation member
      rw [holds.byType] at member
      rw [bne_iff_ne]
      intro same
      rw [holds.get?_iff.mpr ⟨List.mem_of_mem_filter member, same⟩] at found
      cases found
  | some previous =>
      dsimp only
      split
      · rfl
      next otherType =>
        refine (List.filter_eq_self.mpr ?_).symm
        intro operation member
        rw [holds.byType, List.mem_filter, decide_eq_true_eq] at member
        rw [bne_iff_ne]
        intro same
        rw [holds.get?_iff.mpr ⟨member.1, same⟩] at found
        cases found
        exact otherType member.2.symm

theorem register (holds : registry.Holds operations) (operation : Operation) :
    (registry.register operation).Holds
      (operations.filter (·.id != operation.id) ++ [operation]) where
  distinct := by
    rw [List.map_append, List.nodup_append]
    refine ⟨holds.distinct.sublist (List.filter_sublist.map _), List.nodup_singleton _, ?_⟩
    intro id old new isNew same
    obtain ⟨other, member, rfl⟩ := List.mem_map.mp old
    have differs : other.id ≠ operation.id := by simpa using (List.mem_filter.mp member).2
    exact differs (same.trans (List.mem_singleton.mp isNew))
  sorted := holds.sorted.insert _ _
  get?_iff := by
    intro id found
    rw [get?_register, List.mem_append, List.mem_filter, List.mem_singleton, bne_iff_ne]
    by_cases same : id = operation.id
    · subst same
      rw [if_pos rfl, Option.some.injEq]
      constructor
      · intro isNew
        exact ⟨.inr isNew.symm, congrArg Operation.id isNew.symm⟩
      · intro member
        obtain ⟨old | new, sameId⟩ := member
        · exact absurd sameId old.2
        · exact new.symm
    · rw [if_neg same, holds.get?_iff]
      constructor
      · intro member
        obtain ⟨old, rfl⟩ := member
        exact ⟨.inl ⟨old, same⟩, rfl⟩
      · intro member
        obtain ⟨old | new, rfl⟩ := member
        · exact ⟨old.1, rfl⟩
        · exact absurd (congrArg Operation.id new) same
  byType := by
    intro type
    rw [List.filter_append, ← holds.withdraw]
    change (if type = operation.type then _ else _) = _
    by_cases same : type = operation.type
    · simp [same]
    · simp [same, Ne.symm same]

/-- After any registrations both indices hold the last ones of all ids. -/
theorem registerAll (operations : List Operation) :
    (Registry.empty.registerAll operations).Holds (lastRegistrations operations) := by
  induction operations using List.reverseRecOn with
  | nil => exact .empty
  | append_singleton before operation ih =>
      rw [lastRegistrations_concat, Registry.registerAll, List.foldl_concat]
      exact ih.register operation

theorem mem_ids_iff (holds : registry.Holds operations) {id : String} :
    id ∈ registry.ids ↔ id ∈ operations.map (·.id) := by
  rw [ids, Dict.mem_keys_iff, List.mem_map]
  exact exists_congr fun _ => holds.get?_iff

theorem ids_sorted (holds : registry.Holds operations) :
    registry.ids.Pairwise (· < ·) :=
  List.pairwise_map.mpr holds.sorted

theorem nodup_ids (holds : registry.Holds operations) : registry.ids.Nodup := by
  refine holds.ids_sorted.imp ?_
  intro left right below same
  exact String.lt_irrefl left (same ▸ below)

theorem size_eq_length (holds : registry.Holds operations) : registry.size = operations.length := by
  have sameIds := (List.perm_ext_iff_of_nodup holds.nodup_ids holds.distinct).mpr
    fun id => holds.mem_ids_iff
  simpa [ids, Dict.keys, size] using sameIds.length_eq

theorem mem_byType_iff (holds : registry.Holds operations) {type : OperationType}
    {operation : Operation} :
    operation ∈ registry.byType type ↔
      ∃ id, registry.get? id = some operation ∧ operation.type = type := by
  simp [holds.byType, holds.get?_iff]

theorem nodup_byType_ids (holds : registry.Holds operations) (type : OperationType) :
    ((registry.byType type).map (·.id)).Nodup := by
  rw [holds.byType]
  exact holds.distinct.sublist (List.filter_sublist.map _)

end Holds

theorem get?_registerAll_empty (operations : List Operation) (id : String) :
    (Registry.empty.registerAll operations).get? id = operations.findRev? (·.id == id) := by
  rw [List.findRev?_eq_find?_reverse]
  induction operations using List.reverseRecOn with
  | nil => rfl
  | append_singleton before operation ih =>
      rw [registerAll, List.foldl_concat, get?_register, List.reverse_concat, List.find?_cons]
      by_cases same : operation.id = id
      · simp [same]
      · rw [if_neg (Ne.symm same), beq_eq_false_iff_ne.mpr same]
        exact ih

/-- Every operation is in the list of one type. -/
theorem sum_length_filter_type (operations : List Operation) :
    (OperationType.all.map fun type =>
      (operations.filter (·.type = type)).length).sum = operations.length := by
  induction operations with
  | nil => rfl
  | cons operation operations ih =>
      rw [List.length_cons, ← ih]
      cases same : operation.type <;> simp [OperationType.all, same] <;> omega

/-! ## The catalog -/

variable {registry : Registry}

theorem mem_catalog_iff {type : OperationType} {infos : List OperationInfo} :
    (type, infos) ∈ registry.catalog ↔
      registry.byType type ≠ [] ∧ infos = registry.infosOf type := by
  have listed : type ∈ OperationType.all := by cases type <;> decide
  rw [catalog, List.mem_map]
  constructor
  · intro entry
    obtain ⟨entryType, member, same⟩ := entry
    cases same
    exact ⟨by simpa using (List.mem_filter.mp member).2, rfl⟩
  · intro entry
    obtain ⟨notEmpty, rfl⟩ := entry
    exact ⟨type, List.mem_filter.mpr ⟨listed, by simpa using notEmpty⟩, rfl⟩

theorem nodup_catalog_types (registry : Registry) : (registry.catalog.map (·.1)).Nodup := by
  rw [catalog, List.map_map]
  refine List.Nodup.map (fun _ _ same => same) (List.Nodup.filter _ ?_)
  decide

theorem infosOf_perm (registry : Registry) (type : OperationType) :
    (registry.infosOf type).Perm ((registry.byType type).map Operation.info) :=
  List.mergeSort_perm _ _

theorem infosOf_sorted (type : OperationType)
    (distinct : ((registry.byType type).map (·.id)).Nodup) :
    (registry.infosOf type).Pairwise fun left right => left.id < right.id := by
  have distinctIds : ((registry.infosOf type).map (·.id)).Nodup := by
    rw [((registry.infosOf_perm type).map (·.id)).nodup_iff, List.map_map]
    exact distinct
  have ascending := Text.pairwise_mergeSort_by OperationInfo.id
    ((registry.byType type).map Operation.info)
  refine (ascending.and (List.pairwise_map.mp distinctIds)).imp ?_
  intro left right both
  exact Text.lt_of_not_lt_of_ne (String.not_lt.mpr both.1) (Ne.symm both.2)

/-- After any registrations an id stands for its last one, each type lists the operations that ids
stand for in the order of their last registrations, and the views agree with these lists. -/
theorem registerAll_indices_agree (operations : List Operation) :
    let registry := Registry.empty.registerAll operations
    (∀ id, registry.get? id = operations.findRev? (·.id == id)) ∧
    (∀ type, registry.byType type = (lastRegistrations operations).filter (·.type = type) ∧
      ((registry.byType type).map (·.id)).Nodup ∧
      ∀ operation, operation ∈ registry.byType type ↔
        ∃ id, registry.get? id = some operation ∧ operation.type = type) ∧
    registry.size = (operations.map (·.id)).toFinset.card ∧
    registry.size = (OperationType.all.map fun type => (registry.byType type).length).sum ∧
    registry.ids.Pairwise (· < ·) ∧
    (∀ id, id ∈ registry.ids ↔ ∃ operation ∈ operations, operation.id = id) ∧
    (registry.catalog.map (·.1)).Nodup ∧
    (∀ type, (∃ infos, (type, infos) ∈ registry.catalog) ↔ registry.byType type ≠ []) ∧
    ∀ type infos, (type, infos) ∈ registry.catalog →
      infos.Perm ((registry.byType type).map Operation.info) ∧
        infos.Pairwise fun left right => left.id < right.id := by
  intro registry
  have holds : registry.Holds (lastRegistrations operations) := .registerAll operations
  have registered : ∀ id, id ∈ registry.ids ↔ ∃ operation ∈ operations, operation.id = id := by
    intro id
    rw [ids, Dict.mem_keys_iff, ← Option.isSome_iff_exists]
    change (registry.get? id).isSome ↔ _
    rw [get?_registerAll_empty, List.findRev?_eq_find?_reverse]
    simp
  refine ⟨get?_registerAll_empty operations, fun type => ⟨holds.byType type,
    holds.nodup_byType_ids type, fun operation => holds.mem_byType_iff⟩, ?card, ?sum,
    holds.ids_sorted, registered, registry.nodup_catalog_types, ?entries, ?covers⟩
  case card =>
    have sameIds : (operations.map (·.id)).toFinset = registry.ids.toFinset := by
      ext id
      rw [List.mem_toFinset, List.mem_toFinset, registered, List.mem_map]
    rw [sameIds, List.toFinset_card_of_nodup holds.nodup_ids]
    exact (List.length_map _).symm
  case sum =>
    simp only [holds.byType]
    rw [sum_length_filter_type, holds.size_eq_length]
  case entries =>
    intro type
    simp only [mem_catalog_iff, exists_and_left, exists_eq, and_true]
  case covers =>
    intro type infos entry
    obtain ⟨-, rfl⟩ := mem_catalog_iff.mp entry
    exact ⟨registry.infosOf_perm type, infosOf_sorted type (holds.nodup_byType_ids type)⟩

end Registry

end RdfPipeline
