import RdfPipeline.Pipeline.Run
import RdfPipeline.Proofs.Pipeline.Ordering

/-!
# What the check of a pipeline establishes

A pipeline passes the check exactly if its ids are distinct and not blank, its inputs are steps and
its operations are registered.
-/

set_option autoImplicit false

namespace RdfPipeline.Pipeline

/-- What can be relied on once a pipeline has passed its check. -/
structure Checked (registry : Registry) (steps : List Step) : Prop extends Wired steps where
  named : ∀ step ∈ steps, Text.isAllBlank step.id = false
  registered : ∀ step ∈ steps, registry.contains step.operation = true

theorem checkIds_eq_ok_iff {seen : List String} {steps : List Step} :
    checkIds seen steps = .ok () ↔
      (∀ step ∈ steps, Text.isAllBlank step.id = false) ∧ (steps.map (·.id)).Nodup ∧
        ∀ step ∈ steps, step.id ∉ seen := by
  induction steps generalizing seen with
  | nil => simp [checkIds]
  | cons step rest ih =>
      rw [checkIds]
      by_cases blank : Text.isAllBlank step.id = true
      · simp [blank]
      · by_cases known : step.id ∈ seen
        · simp [blank, known]
        · rw [if_neg blank, if_neg (by simpa using known), ih]
          simp only [List.forall_mem_cons, List.map_cons, List.nodup_cons, List.mem_map, not_exists,
            not_and, Bool.not_eq_true] at blank ⊢
          constructor
          · rintro ⟨named, distinct, apart⟩
            exact ⟨⟨blank, named⟩,
              ⟨fun other member same => apart other member (same ▸ List.mem_cons_self), distinct⟩,
              known, fun other member old => apart other member (List.mem_cons_of_mem _ old)⟩
          · rintro ⟨⟨-, named⟩, ⟨fresh, distinct⟩, -, unseen⟩
            exact ⟨named, distinct, fun other member =>
              List.not_mem_cons_of_ne_of_not_mem (fresh other member) (unseen other member)⟩

theorem checkStep_eq_ok_iff {registry : Registry} {ids : List String} {step : Step} :
    checkStep registry ids step = .ok () ↔
      (∀ input ∈ step.inputs, input ∈ ids) ∧ registry.contains step.operation = true := by
  unfold checkStep
  split
  next missing found =>
    have connected := List.mem_of_find?_eq_some found
    have unknown := List.find?_some found
    refine iff_of_false (by simp) fun both => ?_
    simp [both.1 missing connected] at unknown
  next none =>
    have known : ∀ input ∈ step.inputs, input ∈ ids := by
      simpa [List.find?_eq_none] using none
    by_cases registered : registry.contains step.operation = true
    · simpa [registered] using known
    · simp [registered]

theorem forM_eq_ok_iff {α : Type} {check : α → Except EngineError Unit} {items : List α} :
    items.forM check = .ok () ↔ ∀ item ∈ items, check item = .ok () := by
  induction items with
  | nil => simp [pure, Except.pure]
  | cons item rest ih =>
      cases outcome : check item with
      | error error => simp [outcome, bind, Except.bind]
      | ok done => simpa [outcome, bind, Except.bind] using ih

theorem validate_eq_ok_iff {registry : Registry} {pipeline : Pipeline} :
    pipeline.validate registry = .ok () ↔ Checked registry pipeline.steps := by
  have split : pipeline.validate registry = .ok () ↔ checkIds [] pipeline.steps = .ok () ∧
      pipeline.steps.forM (checkStep registry (pipeline.steps.map (·.id))) = .ok () := by
    unfold validate
    cases checkIds [] pipeline.steps <;> simp [bind, Except.bind]
  rw [split, checkIds_eq_ok_iff, forM_eq_ok_iff]
  simp only [checkStep_eq_ok_iff]
  constructor
  · rintro ⟨⟨named, distinct, -⟩, steps⟩
    exact ⟨⟨distinct, fun step member => (steps step member).1⟩, named,
      fun step member => (steps step member).2⟩
  · intro checked
    exact ⟨⟨checked.named, checked.distinct, by simp⟩,
      fun step member => ⟨checked.known step member, checked.registered step member⟩⟩

theorem plan_eq_ok_iff {registry : Registry} {pipeline : Pipeline} {sorted : List Step} :
    plan registry pipeline = .ok sorted ↔
      Checked registry pipeline.steps ∧ order pipeline.steps = .ok sorted := by
  rw [← validate_eq_ok_iff]
  unfold plan
  cases pipeline.validate registry <;> simp [bind, Except.bind]

theorem exists_get_of_contains {registry : Registry} {id : String}
    (registered : registry.contains id = true) : ∃ operation, registry.get id = .ok operation := by
  obtain ⟨operation, found⟩ := Option.isSome_iff_exists.mp registered
  exact ⟨operation, by simp only [Registry.get, Registry.get?, found]⟩

end RdfPipeline.Pipeline
