import RdfPipeline.Proofs.Pipeline.Ordering

/-!
# The steps that a cycle error names

Ordering takes the ids that some step can provide from inputs that are provided in turn, also where
several steps share an id. A cycle error names the other steps, and from each of them a cycle can be
reached. It names none where every id can be provided: then only a repeated id has kept the order
shorter than the list, and there may be no cycle at all.
-/

set_option autoImplicit false

namespace RdfPipeline.Pipeline

open Relation

variable {steps placed : List Step}

/-! ## Ids that can be provided -/

/-- All inputs of the steps are ids of steps. -/
def InputsListed (steps : List Step) : Prop :=
  ∀ step ∈ steps, ∀ input ∈ step.inputs, input ∈ steps.map (·.id)

/-- Some step of this id has only inputs that can be provided. -/
inductive Provided (steps : List Step) : String → Prop where
  | step {step : Step} :
      step ∈ steps → (∀ input ∈ step.inputs, Provided steps input) → Provided steps step.id

theorem provided_of_inputsFirst (listed : placed ⊆ steps) (inputsFirst : InputsFirst placed) :
    ∀ step ∈ placed, Provided steps step.id := by
  induction placed using List.reverseRecOn with
  | nil => simp
  | append_singleton before last ih =>
      obtain ⟨beforeListed, lastListed⟩ := List.append_subset.mp listed
      have earlier := ih beforeListed inputsFirst.of_append
      refine List.forall_mem_append.mpr ⟨earlier, List.forall_mem_singleton.mpr ?_⟩
      refine .step (lastListed List.mem_cons_self) fun input connected => ?_
      obtain ⟨provider, member, rfl⟩ :=
        List.mem_map.mp (inputsFirst before last [] rfl input connected)
      exact earlier provider member

/-- When nothing can be taken any more, all ids that can be provided have been taken. -/
theorem Stalled.taken_iff_provided (stalled : Stalled steps placed) {id : String} :
    id ∈ placed.map (·.id) ↔ Provided steps id := by
  constructor
  · intro taken
    obtain ⟨step, member, rfl⟩ := List.mem_map.mp taken
    exact provided_of_inputsFirst stalled.taken.listed stalled.taken.inputsFirst step member
  · intro provided
    induction provided with
    | @step step listed _ inputsTaken =>
        by_contra left
        obtain ⟨input, connected, inputLeft⟩ := stalled.waits step listed left
        exact inputLeft (inputsTaken input connected)

/-- A step that cannot be provided waits for another such step, whichever one is chosen for an id
that several steps have. -/
theorem leadsToCycle_of_not_provided (inputsListed : InputsListed steps) {step : Step}
    (listed : step ∈ steps) (missing : ¬Provided steps step.id) : LeadsToCycle steps step := by
  refine leadsToCycle_of_waiting (fun step => ¬Provided steps step.id) ?_ listed missing
  intro step listed missing
  have waits : ∃ input ∈ step.inputs, ¬Provided steps input := by
    by_contra none
    push Not at none
    exact missing (.step listed none)
  obtain ⟨input, connected, inputMissing⟩ := waits
  obtain ⟨earlier, earlierListed, rfl⟩ := List.mem_map.mp (inputsListed step listed input connected)
  exact ⟨earlier, ⟨earlierListed, connected⟩, inputMissing⟩

/-! ## What a stalled pass reports -/

/-- The steps that are left, in the order of the list. -/
def leftSteps (steps placed : List Step) : List Step :=
  steps.filter fun step => !isTaken placed step.id

theorem Stalled.mem_leftSteps_iff (stalled : Stalled steps placed) {step : Step} :
    step ∈ leftSteps steps placed ↔ step ∈ steps ∧ ¬Provided steps step.id := by
  rw [leftSteps, List.mem_filter, Bool.not_eq_true', ← Bool.not_eq_true, isTaken_iff,
    stalled.taken_iff_provided]

theorem Stalled.leftSteps_eq_nil_iff (stalled : Stalled steps placed) :
    leftSteps steps placed = [] ↔ ∀ step ∈ steps, Provided steps step.id := by
  simp only [List.eq_nil_iff_forall_not_mem, stalled.mem_leftSteps_iff, not_and, not_not]

theorem Stalled.repeated_of_provided (stalled : Stalled steps placed)
    (provided : ∀ step ∈ steps, Provided steps step.id) : ¬(steps.map (·.id)).Nodup := by
  intro distinct
  obtain ⟨step, listed, left⟩ := stalled.exists_left distinct
  exact left (stalled.taken_iff_provided.mpr (provided step listed))

theorem stalled_of_order_eq_error {reported : List String}
    (rejected : order steps = .error (.circularDependency reported)) :
    InputsListed steps ∧
      ∃ placed, reported = (leftSteps steps placed).map (·.id) ∧ Stalled steps placed := by
  unfold order at rejected
  split at rejected
  next => cases rejected
  next known =>
    refine ⟨unknownInput?_eq_none_iff.mp known, ?_⟩
    rcases takeAll_cases (taken_nil steps) with ⟨_, accepted, -⟩ | ⟨placed, failed, stalled⟩
    · rw [rejected] at accepted
      cases accepted
    · rw [rejected] at failed
      cases failed
      exact ⟨placed, rfl, stalled⟩

/-- No order is as long as a list in which an id is repeated. -/
theorem stalled_of_repeated (inputsListed : InputsListed steps)
    (repeated : ¬(steps.map (·.id)).Nodup) :
    ∃ placed, order steps =
      .error (.circularDependency ((leftSteps steps placed).map (·.id))) ∧
      Stalled steps placed := by
  rw [order, unknownInput?_eq_none_iff.mpr inputsListed]
  rcases takeAll_cases (taken_nil steps) with ⟨sorted, -, taken, complete⟩ | stalled
  · have sameIds := (taken.perm complete).map (·.id)
    exact absurd (sameIds.nodup_iff.mp taken.distinct) repeated
  · exact stalled

/-! ## Cycle errors -/

/-- A cycle error names, as they are listed, the steps that cannot be provided, and each of them
leads to a cycle. It names none if and only if all steps can be provided but an id is repeated. -/
theorem circularDependency_names_stuck_steps (steps : List Step) :
    (∀ reported, order steps = .error (.circularDependency reported) →
      (∃ stuck : List Step, reported = stuck.map (·.id) ∧ stuck.Sublist steps ∧
        (∀ step ∈ steps, step ∈ stuck ↔ ¬Provided steps step.id) ∧
        ∀ step ∈ stuck, LeadsToCycle steps step) ∧
      (reported ≠ [] → ∃ step ∈ steps, TransGen (DependsOn steps) step step) ∧
      ((steps.map (·.id)).Nodup → reported ≠ [])) ∧
    (order steps = .error (.circularDependency []) ↔
      InputsListed steps ∧ ¬(steps.map (·.id)).Nodup ∧ ∀ step ∈ steps, Provided steps step.id) := by
  constructor
  · intro reported rejected
    obtain ⟨inputsListed, placed, rfl, stalled⟩ := stalled_of_order_eq_error rejected
    have leads : ∀ step ∈ leftSteps steps placed, LeadsToCycle steps step := by
      intro step left
      obtain ⟨listed, missing⟩ := stalled.mem_leftSteps_iff.mp left
      exact leadsToCycle_of_not_provided inputsListed listed missing
    refine ⟨⟨leftSteps steps placed, rfl, List.filter_sublist, ?named, leads⟩, ?cyclic, ?some⟩
    case named =>
      intro step listed
      rw [stalled.mem_leftSteps_iff]
      exact and_iff_right listed
    case cyclic =>
      intro nonempty
      obtain ⟨step, left⟩ := List.exists_mem_of_ne_nil _ (mt List.map_eq_nil_iff.mpr nonempty)
      obtain ⟨onCycle, -, loop⟩ := leads step left
      obtain ⟨_, -, last⟩ := TransGen.tail'_iff.mp loop
      exact ⟨onCycle, last.1, loop⟩
    case some =>
      intro distinct none
      have provided := stalled.leftSteps_eq_nil_iff.mp (List.map_eq_nil_iff.mp none)
      exact stalled.repeated_of_provided provided distinct
  · constructor
    · intro rejected
      obtain ⟨inputsListed, placed, none, stalled⟩ := stalled_of_order_eq_error rejected
      have provided := stalled.leftSteps_eq_nil_iff.mp (List.map_eq_nil_iff.mp none.symm)
      exact ⟨inputsListed, stalled.repeated_of_provided provided, provided⟩
    · intro allProvided
      obtain ⟨inputsListed, repeated, provided⟩ := allProvided
      obtain ⟨placed, rejected, stalled⟩ := stalled_of_repeated inputsListed repeated
      rw [rejected, stalled.leftSteps_eq_nil_iff.mpr provided]
      rfl

/-- Each of the two steps of one id is on a cycle. -/
def repeatedMerge : List Step :=
  [(Step.of "write" "file").withInputs ["merge"], Step.of "read" "csv",
    (Step.of "merge" "join").withInputs ["read", "clean"],
    (Step.of "merge" "join").withInputs ["write"],
    (Step.of "clean" "filter").withInputs ["merge"]]

theorem circularDependency_names_stuck_steps_repeatedMerge :
    order repeatedMerge = .error (.circularDependency ["write", "merge", "merge", "clean"]) ∧
      ∃ step ∈ repeatedMerge, TransGen (DependsOn repeatedMerge) step step := by
  have rejected : order repeatedMerge =
      .error (.circularDependency ["write", "merge", "merge", "clean"]) := by cbv
  exact ⟨rejected,
    ((circularDependency_names_stuck_steps repeatedMerge).1 _ rejected).2.1 (by simp)⟩

/-- Two steps of one id that take no input. -/
def repeatedReader : List Step :=
  [Step.of "read" "csv", Step.of "read" "csv"]

/-- The passes end with one of the steps, and no step depends on any. -/
theorem circularDependency_without_cycle :
    order repeatedReader = .error (.circularDependency []) ∧
      ¬∃ step ∈ repeatedReader, TransGen (DependsOn repeatedReader) step step := by
  have noInputs : ∀ step ∈ repeatedReader, step.inputs = [] := by decide
  refine ⟨by cbv, fun cyclic => ?_⟩
  obtain ⟨step, listed, loop⟩ := cyclic
  obtain ⟨input, first, -⟩ := TransGen.head'_iff.mp loop
  have connected := first.2
  rw [noInputs step listed] at connected
  cases connected

end RdfPipeline.Pipeline
