import RdfPipeline.Proofs.Operation.FileIndependence

/-!
# Graph objects of the built-in operations

A built-in operation hands on the graph object that it received, or one that it has just been given
a number for.
-/

set_option autoImplicit false

namespace RdfPipeline

open Rdf (SharedGraph)

namespace Activity

variable {α β σ : Type}

/-- The activity takes no number for a graph object. -/
def Steady (activity : Activity α) : Prop :=
  ∀ session, (activity session).2.host.freshGraphs = session.host.freshGraphs

namespace Steady

theorem pure (value : α) : Steady (Pure.pure value : Activity α) :=
  fun _ => rfl

theorem throw (error : EngineError) : Steady (throw error : Activity α) :=
  fun _ => rfl

theorem liftExcept (outcome : Except EngineError α) : Steady (liftExcept outcome : Activity α) := by
  cases outcome with
  | ok value => exact pure value
  | error error => exact throw error

theorem tell (notice : Notice) : Steady (Activity.tell notice) :=
  fun _ => rfl

theorem withHost {step : Host → α × Host}
    (steady : ∀ host, (step host).2.freshGraphs = host.freshGraphs) :
    Steady (Activity.withHost step) :=
  fun session => steady session.host

theorem withFreshNodes (read : Nat → Except EngineError (α × Nat)) :
    Steady (Activity.withFreshNodes read) := by
  intro session
  unfold Activity.withFreshNodes
  cases read session.host.freshNodes <;> rfl

theorem bind {first : Activity α} {next : α → Activity β} (steady : Steady first)
    (steadyNext : ∀ value, Steady (next value)) : Steady (first >>= next) := by
  intro session
  have same := steady session
  rcases bind_cases first next session with
    ⟨error, session', ends, stops⟩ | ⟨value, session', ends, goesOn⟩
  · rw [ends] at same
    rw [stops]
    exact same
  · rw [ends] at same
    rw [goesOn]
    exact (steadyNext value session').trans same

theorem checkCancelled : Steady Activity.checkCancelled := by
  refine bind (withHost fun host => rfl) fun requested => ?_
  cases requested with
  | true => exact throw _
  | false => exact pure ()

theorem forEachWithin {consume : Outcome → σ → Activity σ}
    (steady : ∀ outcome state, Steady (consume outcome state)) (pulls : Nat)
    (cursor : Stream.Cursor) (state : σ) :
    Steady (Activity.forEachWithin consume pulls cursor state) := by
  induction pulls generalizing cursor state with
  | zero => exact pure state
  | succ pulls ih =>
      have pulled : Steady (Activity.pull cursor) := withHost fun host => rfl
      refine pulled.bind fun (outcome, cursor) => ?_
      cases outcome with
      | none => exact pure state
      | some outcome => exact (steady outcome state).bind fun state => ih cursor state

theorem forEach {consume : Outcome → σ → Activity σ}
    (steady : ∀ outcome state, Steady (consume outcome state)) (cursor : Stream.Cursor)
    (state : σ) : Steady (Activity.forEach consume cursor state) :=
  bind (withHost fun _ => rfl) fun _ => forEachWithin steady _ cursor state

end Steady

/-- The activity takes back no number, and a graph object that it hands on has a number that was
given out if the one that it received has. -/
structure NumbersGraphs (received : Option SharedGraph) (activity : Activity OperationResult) :
    Prop where
  mono : ∀ session, session.host.freshGraphs ≤ (activity session).2.host.freshGraphs
  lt : ∀ session result shared,
    (∀ old, received = some old → old.identity < session.host.freshGraphs) →
    (activity session).1 = .ok result → result.outputGraph = some shared →
    shared.identity < (activity session).2.host.freshGraphs

namespace NumbersGraphs

variable {received : Option SharedGraph}

/-- An activity that hands on at most what it received. -/
theorem pure {result : OperationResult}
    (known : ∀ shared, result.outputGraph = some shared → received = some shared) :
    NumbersGraphs received (Pure.pure result) := by
  refine ⟨fun _ => Nat.le_refl _, ?_⟩
  intro session result' shared numbered ends handsOn
  cases ends
  exact numbered shared (known shared handsOn)

theorem throw (error : EngineError) : NumbersGraphs received (throw error) := by
  refine ⟨fun _ => Nat.le_refl _, ?_⟩
  intro session result shared numbered ends
  cases ends

theorem bind {first : Activity α} {next : α → Activity OperationResult} (steady : Steady first)
    (numbers : ∀ value, NumbersGraphs received (next value)) :
    NumbersGraphs received (first >>= next) := by
  constructor
  · intro session
    have same := steady session
    rcases bind_cases first next session with
      ⟨error, session', ends, stops⟩ | ⟨value, session', ends, goesOn⟩
    · rw [ends] at same
      rw [stops]
      exact Nat.le_of_eq same.symm
    · rw [ends] at same
      rw [goesOn]
      exact Nat.le_trans (Nat.le_of_eq same.symm) ((numbers value).mono session')
  · intro session result shared numbered
    have same := steady session
    rcases bind_cases first next session with
      ⟨error, session', ends, stops⟩ | ⟨value, session', ends, goesOn⟩
    · rw [stops]
      intro fails
      cases fails
    · rw [ends] at same
      rw [goesOn]
      rw [← same] at numbered
      exact (numbers value).lt session' result shared numbered

theorem bind_liftExcept {outcome : Except EngineError α} {next : α → Activity OperationResult}
    (numbers : ∀ value, outcome = .ok value → NumbersGraphs received (next value)) :
    NumbersGraphs received (liftExcept outcome >>= next) := by
  cases outcome with
  | error error => exact throw error
  | ok value => exact numbers value rfl

theorem map {activity : Activity OperationResult} {change : OperationResult → OperationResult}
    (numbers : NumbersGraphs received activity)
    (same : ∀ result, (change result).outputGraph = result.outputGraph) :
    NumbersGraphs received (activity >>= fun result => Pure.pure (change result)) := by
  constructor
  · intro session
    have grows := numbers.mono session
    rcases bind_cases activity (fun result => Pure.pure (change result)) session with
      ⟨error, session', ends, stops⟩ | ⟨value, session', ends, goesOn⟩
    · rw [ends] at grows
      rw [stops]
      exact grows
    · rw [ends] at grows
      rw [goesOn]
      exact grows
  · intro session result shared numbered
    have bounded := numbers.lt session
    rcases bind_cases activity (fun result => Pure.pure (change result)) session with
      ⟨error, session', ends, stops⟩ | ⟨value, session', ends, goesOn⟩
    · rw [stops]
      intro fails
      cases fails
    · rw [ends] at bounded
      rw [goesOn]
      intro succeeds handsOn
      cases succeeds
      rw [same] at handsOn
      exact bounded value shared numbered rfl handsOn

/-- An activity that hands on at most a graph object that it has made. -/
theorem shareGraph {graph : Rdf.Graph} {toResult : SharedGraph → OperationResult}
    (made : ∀ new shared, (toResult new).outputGraph = some shared → shared = new) :
    NumbersGraphs received
      (Activity.shareGraph graph >>= fun new => Pure.pure (toResult new)) := by
  refine ⟨fun _ => Nat.le_succ _, ?_⟩
  intro session result shared numbered ends handsOn
  cases ends
  rw [made _ shared handsOn]
  exact Nat.lt_succ_self _

end NumbersGraphs

end Activity

/-- Every invocation of the operation numbers its graph objects. -/
def Operation.NumbersGraphs (operation : Operation) : Prop :=
  ∀ context, Activity.NumbersGraphs context.inputGraph (operation.execute context)

/-! ## Built-in operations -/

open Activity

namespace Mapping

theorem mapOutcome_steady (plan : Plan) (interval : Nat) (outcome : Outcome) (progress : Progress) :
    Steady (mapOutcome plan interval outcome progress) := by
  refine Steady.checkCancelled.bind fun _ => ?_
  refine (Steady.liftExcept outcome).bind fun record => ?_
  refine (Steady.liftExcept (plan.rowTriples record _)).bind fun triples => ?_
  split
  · exact (Steady.tell _).bind fun _ => .pure _
  · exact .pure _

theorem takeRows_steady (context : OperationContext) : Steady (takeRows context) := by
  have takes : Steady (context.inputStream.mapM takeStream) := by
    cases context.inputStream with
    | none => exact .pure _
    | some stream => exact (Steady.withHost fun _ => rfl).bind fun taken => .pure _
  refine takes.bind fun taken => ?_
  split
  · exact .pure _
  · exact .throw _

theorem execute_numbersGraphs (interval : Nat) (context : OperationContext) :
    NumbersGraphs context.inputGraph (execute interval context) := by
  refine .bind (takeRows_steady context) fun rows => ?_
  refine .bind (.liftExcept (Plan.ofContext context)) fun plan => ?_
  refine .bind (.forEach (mapOutcome_steady plan interval) rows _) fun progress => ?_
  refine .bind (.tell _) fun _ => .bind (.tell _) fun _ => ?_
  refine .bind (.tell _) fun _ => .bind (.tell _) fun _ => .shareGraph ?_
  rintro new shared ⟨⟩
  rfl

end Mapping

namespace Shape

theorem readShapesText_steady (context : OperationContext) : Steady (readShapesText context) := by
  unfold readShapesText
  split
  · refine .bind (.withHost fun _ => rfl) fun host => ?_
    split
    · exact .pure _
    · exact .throw _
  · exact .pure _

theorem judge_numbersGraphs (policy : ViolationPolicy) {graph : Rdf.SharedGraph} (report : Report) :
    NumbersGraphs (some graph) (judge policy graph report) := by
  unfold judge
  split
  · exact .bind (.tell _) fun _ => .pure fun shared handsOn => handsOn
  · refine .bind (.tell _) fun _ => .pure fun shared handsOn => ?_
    cases policy with
    | fail => cases handsOn
    | warn => exact handsOn
    | proceed => exact handsOn

theorem inputGraph_eq_of_requireGraph {context : OperationContext} {graph : Rdf.SharedGraph}
    (required : requireGraph context = .ok graph) : context.inputGraph = some graph := by
  unfold requireGraph at required
  split at required
  next shared found =>
    cases required
    exact found
  next => cases required

theorem execute_numbersGraphs (config : Config) (context : OperationContext) :
    NumbersGraphs context.inputGraph (execute config context) := by
  refine .bind (readShapesText_steady context) fun text => ?_
  cases text with
  | none => exact .bind (.tell _) fun _ => .pure fun shared handsOn => handsOn
  | some text =>
      refine .bind (.liftExcept (parsePolicy config.onViolation context)) fun policy => ?_
      refine .bind_liftExcept fun graph required => ?_
      refine .bind (.withFreshNodes (parseShapes text)) fun shapes => ?_
      refine .bind (.tell _) fun _ => .bind (.tell _) fun _ => ?_
      rw [inputGraph_eq_of_requireGraph required]
      exact judge_numbersGraphs policy _

end Shape

namespace Source

theorem openInput_steady (operation : String) (context : OperationContext) :
    Steady (openInput operation context) := by
  unfold openInput
  split
  · refine .bind (.withHost fun _ => rfl) fun host => ?_
    split
    · exact .pure _
    · exact .throw _
  · split
    · exact .pure _
    · exact .throw _

theorem readInputText_steady (operation : String) (context : OperationContext) :
    Steady (readInputText operation context) := by
  refine .bind (openInput_steady operation context) fun input => ?_
  refine .bind (.withHost fun _ => rfl) fun host => ?_
  split
  · exact .pure _
  · exact .throw _

theorem streamResult_numbersGraphs (received : Option Rdf.SharedGraph) (feed : Stream.Feed) :
    NumbersGraphs received (streamResult feed) := by
  refine .bind (.withHost fun _ => rfl) fun stream => .pure fun shared handsOn => ?_
  cases handsOn

theorem Csv.execute_numbersGraphs (context : OperationContext) :
    NumbersGraphs context.inputGraph (Csv.execute context) := by
  refine .bind (.liftExcept _) fun delimiter => ?_
  refine .bind (openInput_steady Csv.id context) fun input => ?_
  split
  · refine .bind (.withHost fun _ => rfl) fun host => ?_
    refine .bind (.liftExcept _) fun header => ?_
    exact (streamResult_numbersGraphs _ _).map fun _ => rfl
  · exact (streamResult_numbersGraphs _ _).map fun _ => rfl

theorem JsonRecords.execute_numbersGraphs (context : OperationContext) :
    NumbersGraphs context.inputGraph (JsonRecords.execute context) := by
  refine .bind (openInput_steady JsonRecords.id context) fun input => ?_
  split
  · exact streamResult_numbersGraphs _ _
  · refine .bind (.withHost fun _ => rfl) fun host => ?_
    refine .bind (.liftExcept _) fun document => ?_
    exact .bind (.liftExcept _) fun items => streamResult_numbersGraphs _ _

theorem RdfDocument.execute_numbersGraphs (context : OperationContext) :
    NumbersGraphs context.inputGraph (RdfDocument.execute context) := by
  refine .bind (.liftExcept _) fun format => ?_
  refine .bind (readInputText_steady RdfDocument.id context) fun text => ?_
  refine .bind (.withFreshNodes _) fun graph => .bind (.tell _) fun _ => .shareGraph ?_
  rintro new shared ⟨⟩
  rfl

end Source

theorem FileOutput.execute_numbersGraphs (context : OperationContext) :
    NumbersGraphs context.inputGraph (FileOutput.execute context) := by
  constructor
  · intro session
    obtain ⟨⟨files, changed⟩, -⟩ := FileOutput.execute_changesOnlyFiles context session
    exact Nat.le_of_eq (congrArg Host.freshGraphs changed).symm
  · intro session result shared numbered ends handsOn
    obtain ⟨-, handsOnNothing⟩ := FileOutput.execute_changesOnlyFiles context session
    rw [(handsOnNothing result ends).2] at handsOn
    cases handsOn

/-- The built-in operations hand on no graph object without a number. -/
theorem builtin_numbersGraphs {config : Config} {operation : Operation}
    (builtin : operation ∈ builtins config) : operation.NumbersGraphs := by
  simp only [builtins, List.mem_cons, List.not_mem_nil, or_false] at builtin
  rcases builtin with rfl | rfl | rfl | rfl | rfl | rfl
  · exact Source.Csv.execute_numbersGraphs
  · exact Source.JsonRecords.execute_numbersGraphs
  · exact Source.RdfDocument.execute_numbersGraphs
  · exact Mapping.execute_numbersGraphs config.progressInterval
  · exact Shape.execute_numbersGraphs config
  · exact FileOutput.execute_numbersGraphs

end RdfPipeline
