import RdfPipeline.Proofs.Pipeline.Reaching

/-!
# Checks before the first step

A step starts only in a pipeline that is structurally sound, and in such a pipeline the first step
does start. From then on no structural error can be the end of the run.
-/

set_option autoImplicit false

namespace RdfPipeline.Pipeline

open Relation

/-! ## Structural errors -/

/-- Errors that blame the pipeline and not what its steps do. -/
def IsStructural : EngineError → Prop
  | .invalidDefinition _ | .circularDependency _ | .unknownOperation _ => True
  | _ => False

theorem head?_append {text : String} {first : Char} (begins : text.toList.head? = some first)
    (rest : String) : (text ++ rest).toList.head? = some first := by
  rw [String.toList_append, List.head?_append, begins]
  rfl

/-- The messages of structural errors have first letters of their own. -/
theorem IsStructural.message_head? {error : EngineError} (structural : IsStructural error) :
    error.message.toList.head? ∈ [some 'I', some 'C', some 'U'] := by
  cases error with
  | invalidDefinition reason =>
      have begins : (EngineError.invalidDefinition reason).message.toList.head? = some 'I' :=
        head?_append (by decide) reason
      rw [begins]
      decide
  | circularDependency steps =>
      have begins : (EngineError.circularDependency steps).message.toList.head? = some 'C' :=
        head?_append (by decide) (String.intercalate ", " steps)
      rw [begins]
      decide
  | unknownOperation id =>
      have begins : (EngineError.unknownOperation id).message.toList.head? = some 'U' :=
        head?_append (by decide) id
      rw [begins]
      decide
  | _ => exact structural.elim

theorem failure_message_head? (trace : StepTrace) :
    trace.failure.message.toList.head? = some 'P' :=
  head?_append (by decide) _

theorem cancelled_message_head? (step : String) :
    (EngineError.cancelled (some step)).message.toList.head? = some 'E' :=
  head?_append (by decide) _

/-- Once a step ran, the error of a run is the failure of a step, or the request to cancel. -/
theorem RunEnds.message_head? {registry : Registry} {pipeline : Pipeline}
    {traces : List StepTrace} {verdict : Except EngineError Unit} {text : String}
    (ends : RunEnds registry pipeline traces verdict) (ran : traces ≠ [])
    (failed : errorText? verdict = some text) :
    text.toList.head? = some 'P' ∨ text.toList.head? = some 'E' := by
  cases ends with
  | refused unplanned => exact absurd rfl ran
  | @ran sorted _ _ checked ordered ends =>
      cases ends with
      | completed all successful => cases failed
      | @failed traces last ran successful unsuccessful =>
          cases failed
          exact .inl (failure_message_head? last)
      | @stopped _ next rest error left successful cause =>
          cases failed
          rcases cause with rfl | unregistered
          · exact .inr (cancelled_message_head? next.id)
          · obtain ⟨taken, -⟩ := taken_of_order_eq_ok checked.toWired ordered
            have listed : next ∈ pipeline.steps := taken.listed (by simp [left])
            obtain ⟨operation, found⟩ := exists_get_of_contains (checked.registered next listed)
            rw [found] at unregistered
            cases unregistered

/-! ## The first step -/

/-- A pipeline with steps whose structure is sound. -/
structure Sound (registry : Registry) (pipeline : Pipeline) : Prop where
  checked : Checked registry pipeline.steps
  acyclic : ¬ ∃ step ∈ pipeline.steps, TransGen (DependsOn pipeline.steps) step step
  inhabited : pipeline.steps ≠ []

/-- The first step of a sound pipeline leaves the first trace. -/
theorem Sound.exists_traces {setting : Setting} {pipeline : Pipeline} {host : Host}
    (sound : Sound setting.registry pipeline) (unrequested : host.poll.1 = false) :
    ∃ first rest trace traces, order pipeline.steps = .ok (first :: rest) ∧ trace.step = first ∧
      Extends (.initial host) (trace :: traces) (runPlan setting pipeline (.initial host)).2 := by
  obtain ⟨sorted, ordered⟩ := (exists_order_iff sound.checked.toWired).mpr sound.acyclic
  obtain ⟨taken, permutation⟩ := taken_of_order_eq_ok sound.checked.toWired ordered
  cases sorted with
  | nil => exact absurd permutation.symm.eq_nil sound.inhabited
  | cons first rest =>
      have listed : first ∈ pipeline.steps := taken.listed List.mem_cons_self
      obtain ⟨operation, found⟩ := exists_get_of_contains (sound.checked.registered first listed)
      have starts : Starts setting (.initial host) first operation (State.initial host).poll.2 := by
        refine ⟨?_, found⟩
        rw [← unrequested]
        rfl
      obtain ⟨trace, traces, ofStep, extended⟩ := exists_traces_of_starts starts rest
      refine ⟨first, rest, trace, traces, ordered, ofStep, ?_⟩
      have planned := plan_eq_ok_iff.mpr ⟨sound.checked, ordered⟩
      simpa only [runPlan, planned] using extended

theorem AboutToRun.sound {setting : Setting} {pipeline : Pipeline} {host : Host}
    {ran rest : List Step} {step : Step} {operation : Operation} {ready : State}
    (about : AboutToRun setting pipeline host ran step rest operation ready) :
    Sound setting.registry pipeline ∧ host.poll.1 = false := by
  obtain ⟨checked, ordered⟩ := plan_eq_ok_iff.mp about.planned
  refine ⟨⟨checked, (exists_order_iff checked.toWired).mp ⟨_, ordered⟩, ?_⟩, ?_⟩
  · rintro none
    have permutation := about.taken.2
    rw [none] at permutation
    simpa using permutation.eq_nil
  · obtain ⟨before, reached, starts⟩ := about.reached
    exact reached.poll_start starts

section Reports

variable {registry : Registry} {environment : Environment} {pipeline : Pipeline}
  {bindings : Variables} {dryRun : Bool} {host : Host} {id name : String}

theorem sound_of_started
    (started : .started id name ∈ (run registry environment pipeline bindings dryRun host).1.events) :
    Sound registry pipeline ∧ host.poll.1 = false := by
  obtain ⟨ran, step, rest, operation, ready, -, -, about⟩ := run_started_iff.mp started
  exact about.sound

theorem Sound.exists_first (sound : Sound registry pipeline) (unrequested : host.poll.1 = false) :
    ∃ first rest, order pipeline.steps = .ok (first :: rest) ∧
      (run registry environment pipeline bindings dryRun host).1.events.head? =
        some (.started first.id first.displayName) := by
  let setting : Setting :=
    ⟨registry, environment, pipeline.mergedVariables bindings, dryRun⟩
  obtain ⟨first, rest, trace, traces, ordered, rfl, extended⟩ :=
    @Sound.exists_traces setting pipeline host sound unrequested
  refine ⟨trace.step, rest, ordered, ?_⟩
  have told : (run registry environment pipeline bindings dryRun host).1.events =
      (runPlan setting pipeline (.initial host)).2.events ++ [.finished _ _] := rfl
  rw [told, extended.events]
  rfl

/-- A run that has started a step ends with no error that blames the pipeline. -/
theorem error_ne_of_started
    (started : .started id name ∈ (run registry environment pipeline bindings dryRun host).1.events)
    {error : EngineError} (structural : IsStructural error) :
    (run registry environment pipeline bindings dryRun host).1.error ≠ some error.message := by
  intro sameText
  let setting : Setting :=
    ⟨registry, environment, pipeline.mergedVariables bindings, dryRun⟩
  obtain ⟨traces, extended, ends, -⟩ := runPlan_spec setting pipeline (.initial host)
  have ran : traces ≠ [] := by
    rintro rfl
    have told : .started id name ∈
        (runPlan setting pipeline (.initial host)).2.events ++ [.finished _ _] := started
    rw [extended.events] at told
    simp [State.initial] at told
  have letter := structural.message_head?
  rcases ends.message_head? ran sameText with failed | cancelled
  · rw [failed] at letter
    exact absurd letter (by decide)
  · rw [cancelled] at letter
    exact absurd letter (by decide)

end Reports

/-- A step starts exactly if the pipeline is sound and nothing asks to cancel at once, and the first
event is then the start of the first step of the order. A run that has started a step does not end
with a structural error: in a checked pipeline every input is a step, and every step has an
operation. -/
theorem started_iff_sound (registry : Registry) (environment : Environment) (pipeline : Pipeline)
    (bindings : Variables) (dryRun : Bool) (host : Host) :
    let report := (run registry environment pipeline bindings dryRun host).1
    ((∃ id name, .started id name ∈ report.events) ↔
      Sound registry pipeline ∧ host.poll.1 = false) ∧
    ((∃ id name, .started id name ∈ report.events) →
      ∃ first rest, order pipeline.steps = .ok (first :: rest) ∧
        report.events.head? = some (.started first.id first.displayName)) ∧
    ((∃ id name, .started id name ∈ report.events) →
      ∀ error, IsStructural error → report.error ≠ some error.message) ∧
    (pipeline.validate registry = .ok () →
      (∀ reason, order pipeline.steps ≠ .error (.invalidDefinition reason)) ∧
      ∀ step ∈ pipeline.steps, ∃ operation, registry.get step.operation = .ok operation) := by
  intro report
  refine ⟨⟨?_, ?_⟩, ?_, ?_, ?_⟩
  · rintro ⟨id, name, started⟩
    exact sound_of_started started
  · rintro ⟨sound, unrequested⟩
    obtain ⟨first, rest, -, isFirst⟩ := sound.exists_first unrequested
    exact ⟨first.id, first.displayName, List.mem_of_head? isFirst⟩
  · rintro ⟨id, name, started⟩
    obtain ⟨sound, unrequested⟩ := sound_of_started started
    exact sound.exists_first unrequested
  · rintro ⟨id, name, started⟩ error structural
    exact error_ne_of_started started structural
  · intro valid
    have checked := validate_eq_ok_iff.mp valid
    refine ⟨fun reason failed => ?_, fun step listed => ?_⟩
    · obtain ⟨stuck, cyclic, -⟩ := stuck_of_order_eq_error checked.toWired failed
      cases cyclic
    · exact exists_get_of_contains (checked.registered step listed)

end RdfPipeline.Pipeline
