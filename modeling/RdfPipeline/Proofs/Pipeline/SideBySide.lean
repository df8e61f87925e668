import Mathlib.Data.List.Forall2
import RdfPipeline.Proofs.Pipeline.Reaching
import RdfPipeline.Proofs.Pipeline.StepEffect

/-!
# Two runs side by side

Two runs name their streams and graph objects each on its own, so what they hand on is compared
through a pairing of those names. As long as a view of their hosts shows no difference, steps start
alike in both, receive what corresponds, and do what corresponds.
-/

set_option autoImplicit false

namespace RdfPipeline

/-- What a stream still holds, with a file that nobody has read yet as it is now; none if the stream
has been taken. -/
def Host.contents (host : Host) (stream : RecordStream) : Option Stream.Cursor :=
  (host.streams[stream.index]?).join.map fun cursor =>
    { cursor with feed := .ready (cursor.feed.supply host.files) }

namespace Pipeline

open Rdf (SharedGraph)

/-! ## Pairings -/

/-- Which streams and which graph objects of two runs stand for each other. -/
structure Pairing where
  streams : RecordStream → RecordStream → Prop
  graphs : SharedGraph → SharedGraph → Prop

namespace Pairing

def empty : Pairing := ⟨fun _ _ => False, fun _ _ => False⟩

/-- Everything stands for itself. -/
def same : Pairing := ⟨Eq, Eq⟩

structure Within (part whole : Pairing) : Prop where
  streams : ∀ left right, part.streams left right → whole.streams left right
  graphs : ∀ left right, part.graphs left right → whole.graphs left right

theorem Within.refl (pairing : Pairing) : pairing.Within pairing :=
  ⟨fun _ _ paired => paired, fun _ _ paired => paired⟩

theorem Within.trans {first second third : Pairing} (left : first.Within second)
    (right : second.Within third) : first.Within third :=
  ⟨fun _ _ paired => right.streams _ _ (left.streams _ _ paired),
    fun _ _ paired => right.graphs _ _ (left.graphs _ _ paired)⟩

theorem empty_within (pairing : Pairing) : empty.Within pairing :=
  ⟨fun _ _ never => never.elim, fun _ _ never => never.elim⟩

end Pairing

theorem option_rel_mono {α β : Type} {related larger : α → β → Prop}
    (within : ∀ left right, related left right → larger left right) {left : Option α}
    {right : Option β} (rel : Option.Rel related left right) : Option.Rel larger left right := by
  cases rel with
  | some paired => exact .some (within _ _ paired)
  | none => exact .none

theorem option_rel_eq_iff {α : Type} {left right : Option α} :
    Option.Rel Eq left right ↔ left = right := by
  constructor
  · rintro (same | _)
    · rw [same]
    · rfl
  · rintro rfl
    cases left with
    | none => exact .none
    | some value => exact .some rfl

structure Payload.Pairs (pairing : Pairing) (left right : Payload) : Prop where
  stream : Option.Rel pairing.streams left.stream right.stream
  graph : Option.Rel pairing.graphs left.graph right.graph

namespace Payload.Pairs

theorem nothing (pairing : Pairing) : Pairs pairing .nothing .nothing :=
  ⟨.none, .none⟩

theorem mono {part whole : Pairing} (within : part.Within whole) {left right : Payload}
    (pairs : Pairs part left right) : Pairs whole left right :=
  ⟨option_rel_mono within.streams pairs.stream, option_rel_mono within.graphs pairs.graph⟩

theorem same_iff {left right : Payload} : Pairs .same left right ↔ left = right := by
  constructor
  · rintro ⟨stream, graph⟩
    obtain ⟨streamEq, graphEq⟩ := And.intro (option_rel_eq_iff.mp stream) (option_rel_eq_iff.mp graph)
    cases left
    cases right
    cases streamEq
    cases graphEq
    rfl
  · rintro rfl
    exact ⟨option_rel_eq_iff.mpr rfl, option_rel_eq_iff.mpr rfl⟩

end Payload.Pairs

/-- Results that differ at most in the names of what they hand on. -/
structure StepResult.Pairs (pairing : Pairing) (left right : StepResult) : Prop where
  step : left.step = right.step
  operation : left.operation = right.operation
  success : left.success = right.success
  output : Payload.Pairs pairing left.output right.output
  metadata : left.metadata = right.metadata
  error : left.error = right.error

theorem StepResult.Pairs.refl (result : StepResult) : Pairs .same result result :=
  ⟨rfl, rfl, rfl, Payload.Pairs.same_iff.mpr rfl, rfl, rfl⟩

/-! ## Views -/

/-- A relation between the hosts of two runs under which the covered steps cannot tell them apart.
Paired streams have the same contents, paired graph objects the same triples, and whoever looks for
a request to cancel, forms a union or invokes a covered step on what is paired gets in both runs
what is paired again. -/
structure View (setting : Setting) (covered : Step → Operation → Prop) where
  alike : Pairing → Host → Host → Prop
  contents_eq : ∀ {pairing left right} {stream stream' : RecordStream},
    alike pairing left right → pairing.streams stream stream' →
    left.contents stream = right.contents stream'
  graph_eq : ∀ {pairing left right} {shared shared' : SharedGraph},
    alike pairing left right → pairing.graphs shared shared' → shared.graph = shared'.graph
  poll : ∀ {pairing left right}, alike pairing left right →
    left.poll.1 = right.poll.1 ∧ alike pairing left.poll.2 right.poll.2
  merge : ∀ {pairing left right parts parts'}, alike pairing left right →
    List.Forall₂ pairing.graphs parts parts' → ∃ larger : Pairing, pairing.Within larger ∧
      Option.Rel larger.graphs (left.mergeGraphs parts).1 (right.mergeGraphs parts').1 ∧
      alike larger (left.mergeGraphs parts).2 (right.mergeGraphs parts').2
  execute : ∀ {pairing left right step operation} {input input' : Payload},
    covered step operation → alike pairing left right → Payload.Pairs pairing input input' →
    let execution := operation.execute (setting.context step operation input) ⟨left, []⟩
    let execution' := operation.execute (setting.context step operation input') ⟨right, []⟩
    ∃ larger : Pairing, pairing.Within larger ∧
      StepResult.Pairs larger (invocationResult step execution.1)
        (invocationResult step execution'.1) ∧
      alike larger execution.2.host execution'.2.host

/-- A relation of hosts that name their streams and graph objects alike is a view if nothing covered
tells the hosts apart. -/
def View.ofHosts {setting : Setting} {covered : Step → Operation → Prop}
    (same : Host → Host → Prop)
    (contents_eq : ∀ {left right}, same left right → left.contents = right.contents)
    (poll : ∀ {left right}, same left right →
      left.poll.1 = right.poll.1 ∧ same left.poll.2 right.poll.2)
    (merge : ∀ {left right}, same left right → ∀ parts,
      (left.mergeGraphs parts).1 = (right.mergeGraphs parts).1 ∧
        same (left.mergeGraphs parts).2 (right.mergeGraphs parts).2)
    (execute : ∀ {left right step operation}, covered step operation → same left right →
      ∀ input,
        let execution := operation.execute (setting.context step operation input) ⟨left, []⟩
        let execution' := operation.execute (setting.context step operation input) ⟨right, []⟩
        execution.1 = execution'.1 ∧ same execution.2.host execution'.2.host) :
    View setting covered where
  alike pairing left right := pairing.Within .same ∧ same left right
  contents_eq := by
    rintro pairing left right stream stream' ⟨within, alike⟩ paired
    rw [contents_eq alike, within.streams _ _ paired]
  graph_eq := by
    rintro pairing left right shared shared' ⟨within, -⟩ paired
    rw [within.graphs _ _ paired]
  poll := by
    rintro pairing left right ⟨within, alike⟩
    exact ⟨(poll alike).1, within, (poll alike).2⟩
  merge := by
    rintro pairing left right parts parts' ⟨within, alike⟩ paired
    obtain rfl : parts = parts' := List.forall₂_eq_eq_eq ▸ paired.imp within.graphs
    obtain ⟨sameUnion, stillAlike⟩ := merge alike parts
    exact ⟨.same, within, option_rel_eq_iff.mpr sameUnion, .refl _, stillAlike⟩
  execute := by
    rintro pairing left right step operation input input' covered ⟨within, alike⟩ paired
    obtain rfl := Payload.Pairs.same_iff.mp (paired.mono within)
    obtain ⟨sameOutcome, stillAlike⟩ := execute covered alike input
    refine ⟨.same, within, ?_, .refl _, stillAlike⟩
    rw [sameOutcome]
    exact .refl _

/-! ## Ledgers -/

section Options

variable {α β γ δ : Type} {related : α → β → Prop} {related' : γ → δ → Prop}

theorem forall₂_getElem? {left : List α} {right : List β} (all : List.Forall₂ related left right)
    (position : Nat) : Option.Rel related left[position]? right[position]? := by
  induction all generalizing position with
  | nil => exact .none
  | cons first _ ih =>
      cases position with
      | zero => exact .some first
      | succ position => exact ih position

theorem forall₂_getLast? {left : List α} {right : List β} (all : List.Forall₂ related left right) :
    Option.Rel related left.getLast? right.getLast? := by
  rw [List.getLast?_eq_getElem?, List.getLast?_eq_getElem?, all.length_eq]
  exact forall₂_getElem? all _

theorem option_rel_bind {left : Option α} {right : Option β} (rel : Option.Rel related left right)
    {next : α → Option γ} {next' : β → Option δ}
    (each : ∀ value value', related value value' → Option.Rel related' (next value) (next' value')) :
    Option.Rel related' (left.bind next) (right.bind next') := by
  cases rel with
  | some paired => exact each _ _ paired
  | none => exact .none

end Options

/-- Ledgers with related results at the same positions. -/
structure Ledger.Pairs (related : StepResult → StepResult → Prop) (left right : Ledger) : Prop where
  results : List.Forall₂ related left.results right.results
  positions : left.positions = right.positions
  previous : left.previous = right.previous

namespace Ledger.Pairs

variable {related : StepResult → StepResult → Prop} {left right : Ledger}

theorem empty : Pairs related .empty .empty :=
  ⟨.nil, rfl, rfl⟩

theorem mono {larger : StepResult → StepResult → Prop} (pairs : Pairs related left right)
    (within : ∀ result result', related result result' → larger result result') :
    Pairs larger left right :=
  ⟨pairs.results.imp within, pairs.positions, pairs.previous⟩

theorem record (pairs : Pairs related left right) {result result' : StepResult}
    (sameStep : result.step = result'.step) (paired : related result result') :
    Pairs related (left.record result) (right.record result') := by
  refine ⟨List.rel_append pairs.results (.cons paired .nil), ?_, ?_⟩
  · simp only [Ledger.record, sameStep, pairs.positions, pairs.results.length_eq]
  · simp only [Ledger.record, pairs.results.length_eq]

theorem result? (pairs : Pairs related left right) (step : String) :
    Option.Rel related (left.result? step) (right.result? step) := by
  unfold Ledger.result?
  rw [pairs.positions]
  exact option_rel_bind (option_rel_eq_iff.mpr rfl)
    fun position _ same => same ▸ forall₂_getElem? pairs.results position

theorem previousResult? (pairs : Pairs related left right) :
    Option.Rel related left.previousResult? right.previousResult? := by
  unfold Ledger.previousResult?
  rw [pairs.previous]
  exact option_rel_bind (option_rel_eq_iff.mpr rfl)
    fun position _ same => same ▸ forall₂_getElem? pairs.results position

theorem connectedResults (pairs : Pairs related left right) (step : Step) :
    List.Forall₂ related (left.connectedResults step) (right.connectedResults step) := by
  have sameInputs : List.Forall₂ Eq step.inputs step.inputs := by rw [List.forall₂_eq_eq_eq]
  refine List.rel_filterMap ?_ sameInputs
  rintro input _ rfl
  exact pairs.result? input

variable {pairing : Pairing}

theorem connectedStream (pairs : Pairs related left right)
    (handsOn : ∀ result result', related result result' →
      Payload.Pairs pairing result.output result'.output) (step : Step) :
    Option.Rel pairing.streams (left.connectedStream step) (right.connectedStream step) := by
  refine forall₂_getLast? (List.rel_filterMap ?_ (pairs.connectedResults step))
  exact fun result result' paired => (handsOn result result' paired).stream

theorem connectedGraphs (pairs : Pairs related left right)
    (handsOn : ∀ result result', related result result' →
      Payload.Pairs pairing result.output result'.output) (step : Step) :
    List.Forall₂ pairing.graphs (left.connectedGraphs step) (right.connectedGraphs step) := by
  refine List.rel_filterMap ?_ (pairs.connectedResults step)
  exact fun result result' paired => (handsOn result result' paired).graph

end Ledger.Pairs

/-! ## Steps -/

namespace View

variable {setting : Setting} {covered : Step → Operation → Prop} (view : View setting covered)
  {pairing : Pairing} {related : StepResult → StepResult → Prop} {state state' : State}

/-- Where one run starts a step, the other one starts it too. -/
theorem starts (alike : view.alike pairing state.host state'.host) {setting' : Setting}
    (sameRegistry : setting'.registry = setting.registry) {step : Step} {operation : Operation}
    {ready : State} (starts : Starts setting state step operation ready) :
    Starts setting' state' step operation state'.poll.2 ∧
      view.alike pairing ready.host state'.poll.2.host := by
  obtain ⟨sameAnswer, stillAlike⟩ := view.poll alike
  have unrequested : state.host.poll.1 = false := congrArg Prod.fst starts.unrequested
  refine ⟨⟨?_, ?_⟩, ?_⟩
  · rw [← unrequested, sameAnswer]
    rfl
  · rw [sameRegistry]
    exact starts.found
  · rw [starts.host_eq]
    exact stillAlike

/-- A step receives in both runs what corresponds. -/
theorem begin (alike : view.alike pairing state.host state'.host)
    (ledgers : Ledger.Pairs related state.ledger state'.ledger)
    (handsOn : ∀ result result', related result result' →
      Payload.Pairs pairing result.output result'.output) (step : Step) (operation : Operation) :
    ∃ larger : Pairing, pairing.Within larger ∧
      Payload.Pairs larger (state.begin step operation).1 (state'.begin step operation).1 ∧
      view.alike larger (state.begin step operation).2.host
        (state'.begin step operation).2.host := by
  by_cases unconnected : step.inputs = []
  · rw [begin_of_unconnected unconnected, begin_of_unconnected unconnected]
    refine ⟨pairing, .refl _, ?_, alike⟩
    dsimp only
    split
    · exact .nothing pairing
    · have previous := ledgers.previousResult?
      generalize state.ledger.previousResult? = result at previous
      generalize state'.ledger.previousResult? = result' at previous
      cases previous with
      | some paired => exact handsOn _ _ paired
      | none => exact .nothing pairing
  · rw [begin_of_connected unconnected, begin_of_connected unconnected]
    obtain ⟨larger, within, sameUnion, stillAlike⟩ :=
      view.merge alike (ledgers.connectedGraphs handsOn step)
    have stream := ledgers.connectedStream handsOn step
    exact ⟨larger, within, ⟨option_rel_mono within.streams stream, sameUnion⟩, stillAlike⟩

end View

end Pipeline

end RdfPipeline
