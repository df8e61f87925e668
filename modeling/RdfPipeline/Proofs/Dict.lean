import Mathlib.Data.List.Induction
import Mathlib.Data.List.Nodup
import Mathlib.Data.List.Perm.Subperm
import RdfPipeline.Dict

/-!
# Texts in order and dictionaries

Lists that are sorted by a text, and what dictionaries hold after insertions.
-/

set_option autoImplicit false

namespace RdfPipeline

/-! ## Texts in order -/

namespace Text

theorem lt_of_not_lt_of_ne {left right : String} (notBelow : ¬ left < right)
    (other : left ≠ right) : right < left := by
  apply Decidable.byContradiction
  intro notAbove
  exact other (String.le_antisymm (String.not_lt.mp notAbove) (String.not_lt.mp notBelow))

theorem pairwise_mergeSort_by {α : Type} (key : α → String) (items : List α) :
    (items.mergeSort fun left right => !(key right < key left)).Pairwise
      fun left right => key left ≤ key right := by
  let inOrder : α → α → Bool := fun left right => !(key right < key left)
  have inOrder_iff : ∀ left right, inOrder left right = true ↔ key left ≤ key right := by
    intro left right
    rw [Bool.not_eq_true', decide_eq_false_iff_not]
    exact String.not_lt
  have transitive : ∀ a b c, inOrder a b = true → inOrder b c = true → inOrder a c = true := by
    intro a b c
    rw [inOrder_iff, inOrder_iff, inOrder_iff]
    exact String.le_trans
  have total : ∀ a b, (inOrder a b || inOrder b a) = true := by
    intro a b
    rw [Bool.or_eq_true, inOrder_iff, inOrder_iff]
    exact String.le_total _ _
  have sorted := List.pairwise_mergeSort transitive total items
  simp only [inOrder_iff] at sorted
  exact sorted

end Text

/-! ## Entries of dictionaries -/

namespace Dict

variable {α : Type} {dict : Dict α}

theorem mem_keys_iff {key : String} : key ∈ dict.keys ↔ ∃ value, dict.get? key = some value := by
  induction dict with
  | nil => simp [keys, get?]
  | cons entry rest ih =>
      obtain ⟨name, value⟩ := entry
      have keysOf : keys ((name, value) :: rest) = name :: keys rest := rfl
      rw [keysOf, List.mem_cons, ih, get?]
      by_cases same : name = key
      · simp [same]
      · simp [same, Ne.symm same]

theorem mem_insert {key : String} {value : α} {entry : String × α}
    (member : entry ∈ dict.insert key value) : entry = (key, value) ∨ entry ∈ dict := by
  induction dict with
  | nil => exact .inl (List.mem_singleton.mp member)
  | cons first rest ih =>
      obtain ⟨name, old⟩ := first
      rw [insert] at member
      split at member
      · exact List.mem_cons.mp member
      · split at member
        · cases List.mem_cons.mp member with
          | inl added => exact .inl added
          | inr there => exact .inr (.tail _ there)
        · cases member with
          | head => exact .inr (.head _)
          | tail _ there =>
              cases ih there with
              | inl added => exact .inl added
              | inr there => exact .inr (.tail _ there)

/-- Without the entries of a key nothing is found under it, and all else as before. -/
theorem get?_filter_ne (sought key : String) (dict : Dict α) :
    get? sought (dict.filter fun entry => entry.1 != key) =
      if sought = key then none else get? sought dict := by
  induction dict with
  | nil => simp [get?]
  | cons entry rest ih =>
      obtain ⟨name, value⟩ := entry
      by_cases dropped : name = key
      · rw [List.filter_cons_of_neg (by simpa using dropped), ih, get?]
        by_cases found : sought = key
        · rw [if_pos found, if_pos found]
        · rw [if_neg found, if_neg found, if_neg (dropped.trans_ne (Ne.symm found))]
      · rw [List.filter_cons_of_pos (by simpa using dropped), get?, get?, ih]
        by_cases found : name = sought
        · rw [if_pos found, if_pos found, if_neg (found ▸ dropped)]
        · rw [if_neg found, if_neg found]

theorem Sorted.insert (sorted : dict.Sorted) (key : String) (value : α) :
    (dict.insert key value).Sorted := by
  induction dict with
  | nil => exact List.pairwise_singleton _ _
  | cons first rest ih =>
      obtain ⟨name, old⟩ := first
      obtain ⟨firstBelow, restSorted⟩ := List.pairwise_cons.mp sorted
      rw [Dict.insert]
      split
      next below =>
        refine List.pairwise_cons.mpr ⟨?_, sorted⟩
        intro entry member
        cases member with
        | head => exact below
        | tail _ there => exact String.lt_trans below (firstBelow entry there)
      next notBelow =>
        split
        next same => exact List.pairwise_cons.mpr ⟨same ▸ firstBelow, restSorted⟩
        next other =>
          have above : name < key := Text.lt_of_not_lt_of_ne notBelow other
          refine List.pairwise_cons.mpr ⟨?_, ih restSorted⟩
          intro entry member
          cases mem_insert member with
          | inl added => exact added ▸ above
          | inr there => exact firstBelow entry there

theorem mem_of_get? {key : String} {value : α} (found : dict.get? key = some value) :
    (key, value) ∈ dict := by
  induction dict with
  | nil => cases found
  | cons first rest ih =>
      obtain ⟨name, old⟩ := first
      rw [get?] at found
      split at found
      next same =>
        cases found
        rw [same]
        exact List.mem_cons_self
      next => exact List.mem_cons_of_mem _ (ih found)

/-! ## Entries in order -/

/-- Binding a key to the value that it has changes nothing. -/
theorem Sorted.insert_eq_self (sorted : dict.Sorted) {key : String} {value : α}
    (found : dict.get? key = some value) : dict.insert key value = dict := by
  induction dict with
  | nil => cases found
  | cons first rest ih =>
      obtain ⟨name, old⟩ := first
      obtain ⟨firstBelow, restSorted⟩ := List.pairwise_cons.mp sorted
      rw [get?] at found
      split at found
      next same =>
        cases found
        rw [Dict.insert, same, if_neg (String.lt_irrefl key), if_pos rfl]
      next other =>
        have below : name < key := firstBelow _ (mem_of_get? found)
        rw [Dict.insert, if_neg (String.lt_asymm below), if_neg (Ne.symm other),
          ih restSorted found]

/-- A key above all others is added at the end. -/
theorem insert_of_above {key : String} (above : ∀ entry ∈ dict, entry.1 < key) (value : α) :
    dict.insert key value = dict ++ [(key, value)] := by
  induction dict with
  | nil => rfl
  | cons first rest ih =>
      obtain ⟨name, old⟩ := first
      obtain ⟨firstBelow, restBelow⟩ := List.forall_mem_cons.mp above
      have notBelow : ¬ key < name := String.lt_asymm firstBelow
      have other : key ≠ name := (String.ne_of_lt firstBelow).symm
      rw [insert, if_neg notBelow, if_neg other, ih restBelow]
      rfl

theorem insertAll_of_sorted {entries : List (String × α)} (sorted : Sorted (dict ++ entries)) :
    dict.insertAll entries = dict ++ entries := by
  induction entries generalizing dict with
  | nil => exact (List.append_nil dict).symm
  | cons first rest ih =>
      have stepwise : dict.insertAll (first :: rest) =
          (dict.insert first.1 first.2).insertAll rest := rfl
      have above : ∀ entry ∈ dict, entry.1 < first.1 := by
        intro entry member
        exact (List.pairwise_append.mp sorted).2.2 entry member first List.mem_cons_self
      rw [stepwise, insert_of_above above, ih]
      · rw [List.append_assoc]
        rfl
      · rw [List.append_assoc]
        exact sorted

theorem ofList_of_sorted (sorted : dict.Sorted) : ofList dict = dict :=
  insertAll_of_sorted sorted

theorem mapValues_insert {β : Type} (f : α → β) (key : String) (value : α) :
    (dict.insert key value).mapValues f = (dict.mapValues f).insert key (f value) := by
  induction dict with
  | nil => rfl
  | cons first rest ih =>
      obtain ⟨name, old⟩ := first
      have mapped : mapValues f ((name, old) :: rest) = (name, f old) :: mapValues f rest := rfl
      rw [mapped, insert, insert]
      split
      · rfl
      · split
        · rfl
        · rw [← ih]
          rfl

theorem mapValues_insertAll {β : Type} (f : α → β) (entries : List (String × α)) :
    (dict.insertAll entries).mapValues f = (dict.mapValues f).insertAll (mapValues f entries) := by
  induction entries generalizing dict with
  | nil => rfl
  | cons first rest ih =>
      have stepwise : dict.insertAll (first :: rest) =
          (dict.insert first.1 first.2).insertAll rest := rfl
      rw [stepwise, ih, mapValues_insert]
      rfl

theorem Sorted.mapValues {β : Type} (sorted : dict.Sorted) (f : α → β) :
    (dict.mapValues f).Sorted :=
  List.pairwise_map.mpr sorted

/-! ## Dictionaries of lists -/

theorem ofList_append_singleton (entries : List (String × α)) (entry : String × α) :
    ofList (entries ++ [entry]) = (ofList entries).insert entry.1 entry.2 :=
  List.foldl_append

theorem sorted_ofList (entries : List (String × α)) : (ofList entries).Sorted := by
  induction entries using List.reverseRecOn with
  | nil => exact List.Pairwise.nil
  | append_singleton front last ih =>
      rw [ofList_append_singleton]
      exact ih.insert last.1 last.2

theorem Sorted.nodup_keys (sorted : dict.Sorted) : dict.keys.Nodup :=
  List.pairwise_map.mpr (sorted.imp fun below => String.ne_of_lt below)

theorem mem_keys_ofList {key : String} {entries : List (String × α)} :
    key ∈ (ofList entries).keys ↔ key ∈ keys entries := by
  induction entries using List.reverseRecOn with
  | nil => exact Iff.rfl
  | append_singleton front last ih =>
      rw [mem_keys_iff] at ih
      rw [mem_keys_iff, ofList_append_singleton, get?_insert, keys, List.map_append, List.mem_append]
      by_cases same : key = last.1
      · simp [same]
      · simp [same, ih, keys]

/-- The keys are those of the entries, each once. -/
theorem keys_ofList_perm {entries : List (String × α)} {names : List String} (distinct : names.Nodup)
    (same : ∀ name, name ∈ names ↔ name ∈ keys entries) : (ofList entries).keys.Perm names :=
  (List.perm_ext_iff_of_nodup (sorted_ofList entries).nodup_keys distinct).mpr fun name =>
    mem_keys_ofList.trans (same name).symm

/-- The last entry of a key is the one that stays. -/
theorem get?_ofList_of_last {entries : List (String × α)} {key : String} {value : α} {index : Nat}
    (found : entries[index]? = some (key, value))
    (last : ∀ later entry, index < later → entries[later]? = some entry → entry.1 ≠ key) :
    (ofList entries).get? key = some value := by
  induction entries using List.reverseRecOn with
  | nil => cases found
  | append_singleton front added ih =>
      rw [ofList_append_singleton, get?_insert]
      obtain inFront | atEnd := Nat.lt_or_ge index front.length
      · have isLast : (front ++ [added])[front.length]? = some added := by simp
        rw [if_neg (last _ added inFront isLast).symm]
        apply ih
        · rw [← found, List.getElem?_append_left inFront]
        · intro later entry behind isEntry
          apply last later entry behind
          rw [← isEntry, List.getElem?_append_left (List.getElem?_eq_some_iff.mp isEntry).1]
      · rw [List.getElem?_append_right atEnd, List.getElem?_singleton] at found
        split at found
        next =>
          cases found
          rw [if_pos rfl]
        next => cases found

end Dict

end RdfPipeline
