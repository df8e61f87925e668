import RdfPipeline.Proofs.Pipeline.Trace

/-!
# What a step does

A step takes its input from the ledger, leaves its result there, and changes the host as its
operation does. A step that is left out has no effect but its result.
-/

set_option autoImplicit false

namespace RdfPipeline.Pipeline

variable {setting : Setting} {step : Step} {operation : Operation}

/-! ## Input -/

theorem begin_of_unconnected (unconnected : step.inputs = []) (state : State) :
    state.begin step operation =
      (if operation.type = .source then .nothing
        else (state.ledger.previousResult?.map (·.output)).getD .nothing,
        state.tell (.started step.id step.displayName)) := by
  rw [State.begin, State.input, if_pos unconnected]
  rfl

theorem begin_of_connected (connected : step.inputs ≠ []) (state : State) :
    state.begin step operation =
      (⟨state.ledger.connectedStream step,
          (state.host.mergeGraphs (state.ledger.connectedGraphs step)).1⟩,
        { state.tell (.started step.id step.displayName) with
          host := (state.host.mergeGraphs (state.ledger.connectedGraphs step)).2 }) := by
  rw [State.begin, State.input, if_neg connected]
  rfl

theorem begin_ledger (state : State) : (state.begin step operation).2.ledger = state.ledger :=
  (input_frame _ step operation.type).2

theorem begin_metrics (state : State) :
    (state.begin step operation).2.metrics = state.metrics := by
  by_cases unconnected : step.inputs = []
  · rw [begin_of_unconnected unconnected]
    rfl
  · rw [begin_of_connected unconnected]
    rfl

/-! ## Invocation -/

theorem relay_host (step : String) (state : State) (notice : Notice) :
    (state.relay step notice).host = state.host := by
  cases notice <;> rfl

theorem foldl_relay_host (step : String) (notices : List Notice) (state : State) :
    (notices.foldl (State.relay step) state).host = state.host := by
  induction notices generalizing state with
  | nil => rfl
  | cons notice rest ih => rw [List.foldl_cons, ih, relay_host]

theorem invoke_host (input : Payload) (state : State) :
    (invoke setting step operation input state).2.host =
      (operation.execute (setting.context step operation input) ⟨state.host, []⟩).2.host :=
  foldl_relay_host step.id _ _

theorem conclude_host (result : StepResult) (state : State) :
    (conclude step result state).2.host = state.host := by
  unfold conclude
  split <;> rfl

theorem conclude_metrics (result : StepResult) (state : State) :
    (conclude step result state).2.metrics = state.metrics := by
  unfold conclude
  split <;> rfl

theorem conclude_eq_ok_iff (result : StepResult) (state : State) :
    (conclude step result state).1 = .ok () ↔ result.success = true := by
  unfold conclude
  split <;> simp_all

/-- A step with this result and this host after it. -/
structure Effect (step : Step) (before : State) (result : StepResult) (host : Host)
    (verdict : Except EngineError Unit) (after : State) : Prop where
  ledger : after.ledger = before.ledger.record result
  host : after.host = host
  ok_iff : verdict = .ok () ↔ result.success = true

theorem effect_of_invoked (invoked : setting.leavesOut operation = false) (state : State) :
    Effect step state (invocationResult step (execution setting step operation state).1)
      (execution setting step operation state).2.host
      (runStep setting step operation state).1 (runStep setting step operation state).2 := by
  rw [runStep_of_not_leavesOut invoked]
  have tells := invoke_spec setting step operation
    (state.begin step operation).1 (state.begin step operation).2
  refine ⟨?_, ?_, ?_⟩
  · rw [(conclude_spec step _ _).2, tells.ledger, begin_ledger]
    rfl
  · rw [conclude_host, invoke_host]
    rfl
  · exact conclude_eq_ok_iff _ _

theorem effect_of_leftOut (left : setting.leavesOut operation = true) (state : State) :
    Effect step state (.leftOut step) (state.begin step operation).2.host
      (runStep setting step operation state).1 (runStep setting step operation state).2 := by
  rw [runStep_of_leavesOut left]
  refine ⟨?_, ?_, ?_⟩
  · rw [(conclude_spec step _ _).2]
    exact congrArg (Ledger.record · (.leftOut step)) (begin_ledger state)
  · rw [conclude_host]
    rfl
  · exact conclude_eq_ok_iff _ _

end RdfPipeline.Pipeline
