import Mathlib.Data.List.Perm.Subperm
import Mathlib.Data.Set.Finite.List
import Mathlib.Logic.Relation
import Mathlib.Order.WellFounded
import RdfPipeline.Pipeline.Order

/-!
# Soundness and completeness of the order of steps

The passes take exactly the steps from which no cycle can be reached along inputs. What is left when
a pass takes nothing is therefore empty, or it is the steps that lead to a cycle.
-/

set_option autoImplicit false

namespace RdfPipeline.Pipeline

open Relation

/-! ## Dependencies -/

/-- The steps are told apart by their ids, and all their inputs are among them. -/
structure Wired (steps : List Step) : Prop where
  distinct : (steps.map (·.id)).Nodup
  known : ∀ step ∈ steps, ∀ input ∈ step.inputs, input ∈ steps.map (·.id)

/-- `step` takes the output of `input`. -/
def DependsOn (steps : List Step) (step input : Step) : Prop :=
  input ∈ steps ∧ input.id ∈ step.inputs

/-- A cycle can be reached from the step by going from steps to their inputs. -/
def LeadsToCycle (steps : List Step) (step : Step) : Prop :=
  ∃ onCycle, ReflTransGen (DependsOn steps) step onCycle ∧
    TransGen (DependsOn steps) onCycle onCycle

/-- Every step stands behind all its inputs. -/
def InputsFirst (order : List Step) : Prop :=
  ∀ before step after, order = before ++ step :: after →
    ∀ input ∈ step.inputs, input ∈ before.map (·.id)

theorem Wired.eq_of_id_eq {steps : List Step} (wired : Wired steps) {left right : Step}
    (leftListed : left ∈ steps) (rightListed : right ∈ steps) (same : left.id = right.id) :
    left = right :=
  List.inj_on_of_nodup_map wired.distinct leftListed rightListed same

theorem Wired.exists_dependsOn {steps : List Step} (wired : Wired steps) {step : Step}
    (listed : step ∈ steps) {input : String} (connected : input ∈ step.inputs) :
    ∃ earlier, DependsOn steps step earlier ∧ earlier.id = input := by
  obtain ⟨earlier, earlierListed, rfl⟩ := List.mem_map.mp (wired.known step listed input connected)
  exact ⟨earlier, ⟨earlierListed, connected⟩, rfl⟩

theorem not_transGen_self_of_acc {α : Type} {relation : α → α → Prop} {item : α}
    (accessible : Acc (flip relation) item) : ¬ TransGen relation item item := by
  have closed : Acc (TransGen (flip relation)) item := accessible.transGen
  induction closed with
  | intro item _ ih =>
      intro loop
      have swapped : TransGen (flip relation) item item := transGen_swap.mpr loop
      exact ih item swapped accessible loop

theorem acc_of_reflTransGen {α : Type} {relation : α → α → Prop} {start item : α}
    (accessible : Acc (flip relation) start) (reached : ReflTransGen relation start item) :
    Acc (flip relation) item := by
  induction reached with
  | refl => exact accessible
  | tail _ step ih => exact ih.inv step

theorem not_leadsToCycle_of_acc {steps : List Step} {step : Step}
    (accessible : Acc (flip (DependsOn steps)) step) : ¬ LeadsToCycle steps step := by
  rintro ⟨onCycle, reached, loop⟩
  exact not_transGen_self_of_acc (acc_of_reflTransGen accessible reached) loop

/-- In a finite list, a set of steps each of which depends on another one of the set leads to
cycles. -/
theorem leadsToCycle_of_waiting {steps : List Step} (waiting : Step → Prop)
    (waits : ∀ step ∈ steps, waiting step →
      ∃ input, DependsOn steps step input ∧ waiting input)
    {step : Step} (listed : step ∈ steps) (isWaiting : waiting step) :
    LeadsToCycle steps step := by
  by_contra acyclic
  -- Among the waiting steps below this one, a minimal one would have nothing to wait for.
  let Below := { below : Step // below ∈ steps ∧ ReflTransGen (DependsOn steps) step below }
  let follows : Below → Below → Prop := fun left right =>
    TransGen (DependsOn steps) right.1 left.1
  have finite : Finite Below :=
    (List.finite_toSet steps).subset fun below member => member.1
  have transitive : IsTrans Below follows :=
    ⟨fun _ _ _ left right => right.trans left⟩
  have irreflexive : Std.Irrefl follows :=
    ⟨fun below loop => acyclic ⟨below.1, below.2.2, loop⟩⟩
  obtain ⟨least, leastWaits, minimal⟩ :=
    (Finite.wellFounded_of_trans_of_irrefl follows).has_min
      { below | waiting below.1 } ⟨⟨step, listed, .refl⟩, isWaiting⟩
  obtain ⟨input, depends, inputWaits⟩ := waits least.1 least.2.1 leastWaits
  exact minimal ⟨input, depends.1, least.2.2.tail depends⟩ inputWaits (.single depends)

/-! ## Orders under construction -/

@[simp] theorem isTaken_iff {order : List Step} {id : String} :
    isTaken order id = true ↔ id ∈ order.map (·.id) := by
  simp [isTaken]

theorem inputsFirst_nil : InputsFirst [] := by
  intro before step after split
  simp at split

theorem InputsFirst.concat {order : List Step} (inputsFirst : InputsFirst order) {step : Step}
    (ready : ∀ input ∈ step.inputs, input ∈ order.map (·.id)) : InputsFirst (order ++ [step]) := by
  intro before middle after split
  rcases List.eq_nil_or_concat after with rfl | ⟨front, last, rfl⟩
  · obtain ⟨rfl, same⟩ := List.append_inj' split rfl
    obtain rfl : step = middle := by simpa using same
    exact ready
  · have split' : order ++ [step] = (before ++ middle :: front) ++ [last] := by
      simpa [List.concat_eq_append] using split
    obtain ⟨orderSplit, -⟩ := List.append_inj' split' rfl
    exact inputsFirst before middle front orderSplit

theorem InputsFirst.of_append {before after : List Step}
    (inputsFirst : InputsFirst (before ++ after)) : InputsFirst before := by
  intro front step rest split
  exact inputsFirst front step (rest ++ after) (by simp [split])

/-- What holds of the steps taken so far. -/
structure Taken (steps order : List Step) : Prop where
  listed : order ⊆ steps
  distinct : (order.map (·.id)).Nodup
  inputsFirst : InputsFirst order

theorem taken_nil (steps : List Step) : Taken steps [] :=
  ⟨List.nil_subset steps, List.nodup_nil, inputsFirst_nil⟩

/-- What one look at a step can do to the order. -/
theorem takeReady_cases (order : List Step) (step : Step) :
    (takeReady order step = order ∧
      (step.id ∈ order.map (·.id) ∨ ∃ input ∈ step.inputs, input ∉ order.map (·.id))) ∨
    (takeReady order step = order ++ [step] ∧ step.id ∉ order.map (·.id) ∧
      ∀ input ∈ step.inputs, input ∈ order.map (·.id)) := by
  unfold takeReady
  split
  next known => exact .inl ⟨rfl, .inl (isTaken_iff.mp known)⟩
  next new =>
    rw [isTaken_iff] at new
    split
    next ready =>
      refine .inr ⟨rfl, new, fun input connected => ?_⟩
      exact isTaken_iff.mp (List.all_eq_true.mp ready input connected)
    next notReady =>
      refine .inl ⟨rfl, .inr ?_⟩
      simpa only [List.all_eq_true, isTaken_iff, not_forall, exists_prop] using notReady

theorem prefix_takeReady (order : List Step) (step : Step) : order <+: takeReady order step := by
  rcases takeReady_cases order step with ⟨same, -⟩ | ⟨longer, -⟩
  · rw [same]
  · rw [longer]
    exact List.prefix_append order [step]

theorem Taken.takeReady {steps order : List Step} (taken : Taken steps order) {step : Step}
    (listed : step ∈ steps) : Taken steps (takeReady order step) := by
  rcases takeReady_cases order step with ⟨same, -⟩ | ⟨longer, new, ready⟩
  · rw [same]
    exact taken
  · rw [longer]
    refine ⟨?_, ?_, taken.inputsFirst.concat ready⟩
    · exact List.append_subset.mpr ⟨taken.listed, by simpa using listed⟩
    · simp only [List.map_append, List.map_cons, List.map_nil]
      exact List.nodup_append_comm.mp (List.nodup_cons.mpr ⟨new, taken.distinct⟩)

/-! ## Passes -/

theorem prefix_foldl_takeReady (candidates order : List Step) :
    order <+: candidates.foldl takeReady order := by
  induction candidates generalizing order with
  | nil => exact List.prefix_refl order
  | cons step rest ih => exact (prefix_takeReady order step).trans (ih _)

theorem Taken.pass {steps order : List Step} (taken : Taken steps order) :
    Taken steps (pass steps order) := by
  have onSublist : ∀ candidates ⊆ steps, ∀ order, Taken steps order →
      Taken steps (candidates.foldl Pipeline.takeReady order) := by
    intro candidates
    induction candidates with
    | nil => exact fun _ _ taken => taken
    | cons step rest ih =>
        intro listed order taken
        obtain ⟨stepListed, restListed⟩ := List.cons_subset.mp listed
        exact ih restListed _ (taken.takeReady stepListed)
  exact onSublist steps (List.Subset.refl steps) order taken

/-- A pass that takes nothing leaves only steps that wait for one that is left as well. -/
theorem waits_of_foldl_takeReady_eq {candidates order : List Step}
    (stalled : candidates.foldl takeReady order = order) {step : Step}
    (candidate : step ∈ candidates) (left : step.id ∉ order.map (·.id)) :
    ∃ input ∈ step.inputs, input ∉ order.map (·.id) := by
  induction candidates with
  | nil => simp at candidate
  | cons first rest ih =>
      have unchanged : takeReady order first = order := by
        refine ((prefix_takeReady order first).eq_of_length_le ?_).symm
        have restLonger := (prefix_foldl_takeReady rest (takeReady order first)).length_le
        rw [List.foldl_cons] at stalled
        rwa [stalled] at restLonger
      rcases List.mem_cons.mp candidate with rfl | later
      · rcases takeReady_cases order step with ⟨-, known | waits⟩ | ⟨longer, -⟩
        · exact absurd known left
        · exact waits
        · simp [longer] at unchanged
      · rw [List.foldl_cons, unchanged] at stalled
        exact ih stalled later

/-- The steps of which none can be taken any more. -/
structure Stalled (steps order : List Step) : Prop where
  taken : Taken steps order
  incomplete : order.length < steps.length
  waits : ∀ step ∈ steps, step.id ∉ order.map (·.id) →
    ∃ input ∈ step.inputs, input ∉ order.map (·.id)

/-- The passes end with all steps taken, or with a rest that waits for itself. -/
theorem takeAll_cases {steps order : List Step} (taken : Taken steps order) :
    (∃ sorted, takeAll steps order = .ok sorted ∧ Taken steps sorted ∧
      steps.length ≤ sorted.length) ∨
    (∃ stalled, takeAll steps order = .error (.circularDependency
        ((steps.filter fun step => !isTaken stalled step.id).map (·.id))) ∧
      Stalled steps stalled) := by
  fun_induction takeAll steps order with
  | case1 order incomplete progress ih => exact ih taken.pass
  | case2 order incomplete noProgress =>
      refine .inr ⟨order, rfl, taken, incomplete, fun step listed left => ?_⟩
      have unchanged : pass steps order = order :=
        ((prefix_foldl_takeReady steps order).eq_of_length_le (Nat.le_of_not_lt noProgress)).symm
      exact waits_of_foldl_takeReady_eq unchanged listed left
  | case3 order complete => exact .inl ⟨order, rfl, taken, Nat.le_of_not_lt complete⟩

/-! ## What is taken and what is left -/

theorem Taken.perm {steps order : List Step} (taken : Taken steps order)
    (complete : steps.length ≤ order.length) : order.Perm steps :=
  (List.subperm_of_subset (List.Nodup.of_map _ taken.distinct) taken.listed).perm_of_length_le
    complete

/-- Below a taken step there are only steps that were taken before it. -/
theorem acc_of_inputsFirst {steps order : List Step} (wired : Wired steps)
    (listed : order ⊆ steps) (inputsFirst : InputsFirst order) :
    ∀ step ∈ order, Acc (flip (DependsOn steps)) step := by
  induction order using List.reverseRecOn with
  | nil => simp
  | append_singleton before last ih =>
      have earlier := ih (List.append_subset.mp listed).1 inputsFirst.of_append
      intro step member
      rcases List.mem_append.mp member with old | new
      · exact earlier step old
      · obtain rfl : step = last := by simpa using new
        refine .intro step fun input depends => ?_
        obtain ⟨inputListed, connected⟩ : DependsOn steps step input := depends
        obtain ⟨taken, takenBefore, same⟩ :=
          List.mem_map.mp (inputsFirst before step [] rfl input.id connected)
        have takenListed : taken ∈ steps := listed (List.mem_append_left _ takenBefore)
        rw [← wired.eq_of_id_eq takenListed inputListed same]
        exact earlier taken takenBefore

theorem Taken.not_leadsToCycle {steps order : List Step} (wired : Wired steps)
    (taken : Taken steps order) {step : Step} (member : step ∈ order) :
    ¬ LeadsToCycle steps step :=
  not_leadsToCycle_of_acc (acc_of_inputsFirst wired taken.listed taken.inputsFirst step member)

theorem Stalled.leadsToCycle_iff {steps order : List Step} (wired : Wired steps)
    (stalled : Stalled steps order) {step : Step} (listed : step ∈ steps) :
    LeadsToCycle steps step ↔ step.id ∉ order.map (·.id) := by
  constructor
  · intro leads member
    obtain ⟨taken, takenMember, same⟩ := List.mem_map.mp member
    obtain rfl : taken = step :=
      wired.eq_of_id_eq (stalled.taken.listed takenMember) listed same
    exact stalled.taken.not_leadsToCycle wired takenMember leads
  · refine leadsToCycle_of_waiting (fun step => step.id ∉ order.map (·.id)) ?_ listed
    intro step listed left
    obtain ⟨input, connected, inputLeft⟩ := stalled.waits step listed left
    obtain ⟨earlier, depends, rfl⟩ := wired.exists_dependsOn listed connected
    exact ⟨earlier, depends, inputLeft⟩

theorem Stalled.exists_left {steps order : List Step} (stalled : Stalled steps order)
    (distinct : (steps.map (·.id)).Nodup) : ∃ step ∈ steps, step.id ∉ order.map (·.id) := by
  by_contra none
  push Not at none
  have covered : steps.map (·.id) ⊆ order.map (·.id) := by
    intro id member
    obtain ⟨step, listed, rfl⟩ := List.mem_map.mp member
    exact none step listed
  have notLonger := distinct.length_le_of_subset covered
  simp only [List.length_map] at notLonger
  exact absurd stalled.incomplete (Nat.not_lt.mpr notLonger)

/-! ## The order -/

theorem unknownInput?_eq_none_iff {steps : List Step} :
    unknownInput? steps = none ↔
      ∀ step ∈ steps, ∀ input ∈ step.inputs, input ∈ steps.map (·.id) := by
  simp only [unknownInput?, List.findSome?_eq_none_iff, Option.map_eq_none_iff,
    List.find?_eq_none, Bool.not_eq_true', Bool.not_eq_false, isTaken_iff]

theorem order_eq_takeAll {steps : List Step} (wired : Wired steps) :
    order steps = takeAll steps [] := by
  rw [order, unknownInput?_eq_none_iff.mpr wired.known]

/-- A pass over steps of which each comes after its inputs takes all of them. -/
theorem foldl_takeReady_of_inputsFirst {before after : List Step}
    (distinct : ((before ++ after).map (·.id)).Nodup)
    (inputsFirst : InputsFirst (before ++ after)) :
    after.foldl takeReady before = before ++ after := by
  induction after generalizing before with
  | nil => simp
  | cons step rest ih =>
      have new : step.id ∉ before.map (·.id) := by
        intro member
        rw [List.map_append, List.nodup_append] at distinct
        exact distinct.2.2 _ member _ (by simp) rfl
      have taken : takeReady before step = before ++ [step] := by
        rcases takeReady_cases before step with
          ⟨-, known | ⟨input, connected, missing⟩⟩ | ⟨taken, -⟩
        · exact absurd known new
        · exact absurd (inputsFirst before step rest rfl input connected) missing
        · exact taken
      rw [List.foldl_cons, taken, ih (by simpa using distinct) (by simpa using inputsFirst)]
      simp

theorem order_of_inputsFirst {steps : List Step} (wired : Wired steps)
    (inputsFirst : InputsFirst steps) : order steps = .ok steps := by
  have whole : pass steps [] = steps := foldl_takeReady_of_inputsFirst wired.distinct inputsFirst
  rw [order_eq_takeAll wired, takeAll, whole]
  cases steps with
  | nil => rfl
  | cons step rest =>
      rw [if_pos (by simp), if_pos (by simp), takeAll, if_neg (Nat.lt_irrefl _)]

theorem order_cases {steps : List Step} (wired : Wired steps) :
    (∃ sorted, order steps = .ok sorted ∧ Taken steps sorted ∧ sorted.Perm steps) ∨
    (∃ stalled, order steps = .error (.circularDependency
        ((steps.filter fun step => !isTaken stalled step.id).map (·.id))) ∧
      Stalled steps stalled) := by
  rw [order_eq_takeAll wired]
  rcases takeAll_cases (taken_nil steps) with ⟨sorted, result, taken, complete⟩ | stalled
  · exact .inl ⟨sorted, result, taken, taken.perm complete⟩
  · exact .inr stalled

theorem taken_of_order_eq_ok {steps sorted : List Step} (wired : Wired steps)
    (result : order steps = .ok sorted) : Taken steps sorted ∧ sorted.Perm steps := by
  rcases order_cases wired with ⟨taken, takenResult, facts⟩ | ⟨stalled, error, -⟩
  · obtain rfl : taken = sorted := Except.ok.inj (takenResult.symm.trans result)
    exact facts
  · rw [result] at error
    cases error

theorem exists_order_iff {steps : List Step} (wired : Wired steps) :
    (∃ sorted, order steps = .ok sorted) ↔
      ¬ ∃ step ∈ steps, TransGen (DependsOn steps) step step := by
  constructor
  · rintro ⟨sorted, result⟩ ⟨step, listed, loop⟩
    obtain ⟨taken, perm⟩ := taken_of_order_eq_ok wired result
    exact taken.not_leadsToCycle wired (perm.mem_iff.mpr listed) ⟨step, .refl, loop⟩
  · intro acyclic
    rcases order_cases wired with ⟨sorted, result, -⟩ | ⟨_, -, stalled⟩
    · exact ⟨sorted, result⟩
    · obtain ⟨left, leftListed, leftNotTaken⟩ := stalled.exists_left wired.distinct
      obtain ⟨onCycle, -, loop⟩ := (stalled.leadsToCycle_iff wired leftListed).mpr leftNotTaken
      obtain ⟨_, -, last⟩ := TransGen.tail'_iff.mp loop
      exact absurd ⟨onCycle, last.1, loop⟩ acyclic

theorem stuck_of_order_eq_error {steps : List Step} (wired : Wired steps) {error : EngineError}
    (failed : order steps = .error error) :
    ∃ stuck, error = .circularDependency (stuck.map (·.id)) ∧ stuck.Sublist steps ∧
      (∀ step ∈ steps, step ∈ stuck ↔ LeadsToCycle steps step) ∧ stuck ≠ [] := by
  rcases order_cases wired with ⟨_, accepted, -⟩ | ⟨order', rejected, stalled⟩
  · rw [failed] at accepted
    cases accepted
  · have leftIff : ∀ step : Step,
        (!isTaken order' step.id) = true ↔ step.id ∉ order'.map (·.id) := by
      intro step
      rw [Bool.not_eq_true', ← Bool.not_eq_true, isTaken_iff]
    refine ⟨steps.filter fun step => !isTaken order' step.id,
      Except.error.inj (failed.symm.trans rejected), List.filter_sublist, ?_, ?_⟩
    · intro step listed
      rw [stalled.leadsToCycle_iff wired listed, List.mem_filter, leftIff]
      exact and_iff_right listed
    · obtain ⟨left, leftListed, leftNotTaken⟩ := stalled.exists_left wired.distinct
      exact List.ne_nil_of_mem (List.mem_filter.mpr ⟨leftListed, (leftIff left).mpr leftNotTaken⟩)

/-- Ordering succeeds exactly if there is no cycle. It then puts every step behind its inputs and
keeps an order that does so already. Otherwise it names, as they are listed, the steps from which a
cycle can be reached. -/
theorem order_sound_and_complete {steps : List Step} (wired : Wired steps) :
    ((∃ sorted, order steps = .ok sorted) ↔
      ¬ ∃ step ∈ steps, TransGen (DependsOn steps) step step) ∧
    (∀ sorted, order steps = .ok sorted → sorted.Perm steps ∧ InputsFirst sorted) ∧
    (InputsFirst steps → order steps = .ok steps) ∧
    (∀ error, order steps = .error error →
      ∃ stuck, error = .circularDependency (stuck.map (·.id)) ∧ stuck.Sublist steps ∧
        (∀ step ∈ steps, step ∈ stuck ↔ LeadsToCycle steps step) ∧ stuck ≠ []) := by
  refine ⟨exists_order_iff wired, fun sorted result => ?_, order_of_inputsFirst wired,
    fun error failed => stuck_of_order_eq_error wired failed⟩
  obtain ⟨taken, perm⟩ := taken_of_order_eq_ok wired result
  exact ⟨perm, taken.inputsFirst⟩

-- A step that takes its own output is stuck, and so is the step behind it.
example :
    order [(Step.of "write" "file").withInputs ["loop"], Step.of "read" "csv",
        (Step.of "loop" "join").withInputs ["read", "loop"]] =
      .error (.circularDependency ["write", "loop"]) := by
  cbv

/-- Two steps that take each other's output, one before them and one behind them. -/
def mutualInputs : List Step :=
  [(Step.of "write" "file").withInputs ["right"], Step.of "read" "csv",
    (Step.of "left" "join").withInputs ["read", "right"],
    (Step.of "right" "join").withInputs ["left"]]

theorem order_mutualInputs :
    Wired mutualInputs ∧ ¬ ∃ sorted, order mutualInputs = .ok sorted := by
  have wired : Wired mutualInputs := ⟨by decide, by decide⟩
  refine ⟨wired, fun accepted => (order_sound_and_complete wired).1.mp accepted ?_⟩
  refine ⟨(Step.of "left" "join").withInputs ["read", "right"], ?_, ?_⟩
  · simp [mutualInputs]
  · exact .tail (b := (Step.of "right" "join").withInputs ["left"])
      (.single ⟨by simp [mutualInputs], by decide⟩) ⟨by simp [mutualInputs], by decide⟩

end RdfPipeline.Pipeline
