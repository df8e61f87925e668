import RdfPipeline.Proofs.Pipeline.DataFlow
import RdfPipeline.Proofs.Pipeline.DryRun

/-!
# What results say when they are recorded

An account of a result is all that can be seen of it apart from the names of its stream and its
graph object. A stream that only one step receives still holds, when that step begins, what the
account of its supplier says. So the accounts of the suppliers determine what a step receives.
-/

set_option autoImplicit false

namespace RdfPipeline

open Rdf (Graph SharedGraph)

/-! ## Hosts -/

theorem Host.contents_poll (host : Host) : host.poll.2.contents = host.contents :=
  rfl

theorem Host.mergeGraphs_streams (host : Host) (parts : List SharedGraph) :
    (host.mergeGraphs parts).2.streams = host.streams := by
  unfold mergeGraphs
  split <;> rfl

theorem Host.contents_mergeGraphs (host : Host) (parts : List SharedGraph) :
    (host.mergeGraphs parts).2.contents = host.contents := by
  unfold mergeGraphs
  split <;> rfl

theorem Host.contents_openStream (host : Host) (cursor : Stream.Cursor) :
    (host.openStream cursor).2.contents (host.openStream cursor).1 =
      some { cursor with feed := .ready (cursor.feed.supply host.files) } := by
  simp [contents, openStream]

/-- The stream, if there is one, is one of the host. -/
def Host.Holds (host : Host) (stream : Option RecordStream) : Prop :=
  ∀ handed, stream = some handed → handed.index < host.streams.length

namespace Pipeline

def unionOf (graphs : List Graph) : Option Graph :=
  (Rdf.merge 0 (graphs.map (SharedGraph.mk 0))).map (·.graph)

theorem merge_graph (identity : Nat) (parts : List SharedGraph) :
    (Rdf.merge identity parts).map (·.graph) = unionOf (parts.map (·.graph)) := by
  match parts with
  | [] => rfl
  | [single] => rfl
  | first :: second :: rest => simp [unionOf, Rdf.merge, List.flatMap_map]

/-! ## Accounts -/

structure Account where
  success : Bool
  contents : Option (Option Stream.Cursor) × Option Graph
  metadata : Dict Value
  error : Option String

def StepResult.account (result : StepResult) (host : Host) : Account :=
  ⟨result.success, host.contentsOf result.output, result.metadata, result.error⟩

/-- The result is as the account says, whatever has become of its stream. -/
structure StepResult.Fits (result : StepResult) (account : Account) : Prop where
  success : result.success = account.success
  stream : result.outputStream.isSome = account.contents.1.isSome
  graph : result.outputGraph.map (·.graph) = account.contents.2
  metadata : result.metadata = account.metadata
  error : result.error = account.error

theorem StepResult.fits_account (result : StepResult) (host : Host) :
    result.Fits (result.account host) :=
  ⟨rfl, Option.isSome_map.symm, rfl, rfl, rfl⟩

section Accounts

variable (accounts : String → Option Account)

def streamOf (id : String) : Option (Option Stream.Cursor) :=
  (accounts id).bind (·.contents.1)

def graphOf (id : String) : Option Graph :=
  (accounts id).bind (·.contents.2)

/-- The last of the connections of a step that hands on a stream. -/
def streamSource (step : Step) : Option String :=
  (step.inputs.filter fun id => (streamOf accounts id).isSome).getLast?

/-- What the accounts of its suppliers say that a step receives. -/
def received (step : Step) : Option (Option Stream.Cursor) × Option Graph :=
  ((streamSource accounts step).bind (streamOf accounts),
    unionOf (step.inputs.filterMap (graphOf accounts)))

/-- No stream is received by two steps. -/
def ReceivedOnce (steps : List Step) : Prop :=
  ∀ first ∈ steps, ∀ second ∈ steps, ∀ id, streamSource accounts first = some id →
    streamSource accounts second = some id → first = second

/-- None of the steps that ran has received the stream of this one. -/
def Unreceived (ran : List Step) (id : String) : Prop :=
  ∀ receiver ∈ ran, streamSource accounts receiver ≠ some id

end Accounts

/-! ## Runs that follow accounts -/

/-- What has been recorded fits the accounts. The streams that no step has received yet are told
apart by the steps that handed them on, and hold what these said. -/
structure Follows (accounts : String → Option Account) (ran : List Step) (state : State) :
    Prop where
  recorded : Recorded ran state.ledger
  fits : ∀ result ∈ state.results, ∃ account, accounts result.step = some account ∧
    result.Fits account
  held : ∀ result ∈ state.results, state.host.Holds result.outputStream
  kept : ∀ result ∈ state.results, ∀ stream, result.outputStream = some stream →
    Unreceived accounts ran result.step →
    streamOf accounts result.step = some (state.host.contents stream)
  apart : ∀ first ∈ state.results, ∀ second ∈ state.results, ∀ stream,
    first.outputStream = some stream → second.outputStream = some stream →
    Unreceived accounts ran first.step → Unreceived accounts ran second.step →
    first.step = second.step

/-- Between the hosts only the received stream has been used, and what is handed on is that one or
new. -/
structure Confined (receives : Option RecordStream) (before : Host)
    (handsOn : Option RecordStream) (after : Host) : Prop where
  grows : before.streams.length ≤ after.streams.length
  keeps : ∀ stream, stream.index < before.streams.length → receives ≠ some stream →
    after.contents stream = before.contents stream
  handsOn : ∀ stream, handsOn = some stream → receives = some stream ∨
    before.streams.length ≤ stream.index ∧ stream.index < after.streams.length

theorem Confined.openStream (receives : Option RecordStream) (host : Host)
    (cursor : Stream.Cursor) :
    Confined receives host (some (host.openStream cursor).1) (host.openStream cursor).2 := by
  refine ⟨?_, fun stream old _ => ?_, fun stream new => .inr ?_⟩
  · simp [Host.openStream]
  · simp only [Host.contents, Host.openStream, List.getElem?_append_left old]
  · cases new
    simp [Host.openStream]

theorem Confined.takeStream (host : Host) (stream : RecordStream) :
    Confined (some stream) host none (host.takeStream stream).2 := by
  refine ⟨?_, fun other _ apart => ?_, fun _ none => by cases none⟩
  · simp [Host.takeStream]
  · have elsewhere : stream.index ≠ other.index := by
      intro same
      cases stream
      cases other
      exact apart (congrArg (some ∘ RecordStream.mk) same)
    simp only [Host.contents, Host.takeStream, List.getElem?_set_ne elsewhere]

theorem Confined.of_same {receives : Option RecordStream} {before after : Host}
    (streams : after.streams = before.streams) (contents : after.contents = before.contents) :
    Confined receives before none after where
  grows := Nat.le_of_eq (by rw [streams])
  keeps := fun stream _ _ => by rw [contents]
  handsOn := fun stream none => by cases none

theorem Confined.of_before {receives handsOn : Option RecordStream} {before begun after : Host}
    (confined : Confined receives begun handsOn after) (streams : begun.streams = before.streams)
    (contents : begun.contents = before.contents) : Confined receives before handsOn after where
  grows := streams ▸ confined.grows
  keeps := fun stream => streams ▸ contents ▸ confined.keeps stream
  handsOn := streams ▸ confined.handsOn

/-- A stream that the step receives is handed on by the supplier that the accounts name, and by no
other step of which nobody has received the stream. -/
def Supplied (accounts : String → Option Account) (ran : List Step) (state : State) (step : Step)
    (receives : Option RecordStream) : Prop :=
  ∀ stream, receives = some stream → ∃ supplier ∈ state.results,
    supplier.outputStream = some stream ∧ streamSource accounts step = some supplier.step ∧
      Unreceived accounts ran supplier.step

theorem follows_initial (accounts : String → Option Account) (host : Host) :
    Follows accounts [] (.initial host) where
  recorded := ⟨Ledger.indexed_empty, rfl, fun result none => by cases none⟩
  fits := fun result none => by cases none
  held := fun result none => by cases none
  kept := fun result none => by cases none
  apart := fun result none => by cases none

namespace Follows

variable {accounts : String → Option Account} {ran : List Step} {state : State}
  {setting : Setting} {step : Step} {operation : Operation}

theorem starts {ready : State} (follows : Follows accounts ran state)
    (starts : Starts setting state step operation ready) : Follows accounts ran ready := by
  have ledger : ready.ledger = state.ledger := starts.extends.ledger
  have host := starts.host_eq
  have results : ready.results = state.results := congrArg Ledger.results ledger
  refine ⟨ledger ▸ follows.recorded, results ▸ follows.fits, ?_, ?_, results ▸ follows.apart⟩
  · rw [results, host]
    exact follows.held
  · rw [results, host, Host.contents_poll]
    exact follows.kept

theorem exists_result (follows : Follows accounts ran state) {id : String}
    (known : id ∈ ran.map (·.id)) :
    ∃ result ∈ state.results, ∃ account, state.ledger.result? id = some result ∧ result.step = id ∧
      accounts id = some account ∧ result.Fits account := by
  obtain ⟨result, member, found, rfl⟩ :=
    follows.recorded.indexed.exists_result (follows.recorded.steps ▸ known)
  obtain ⟨account, accounted, fits⟩ := follows.fits result member
  exact ⟨result, member, account, found, rfl, accounted, fits⟩

theorem graphOf_eq (follows : Follows accounts ran state) {id : String}
    (known : id ∈ ran.map (·.id)) :
    ((state.ledger.result? id).bind (·.outputGraph)).map (·.graph) = graphOf accounts id := by
  obtain ⟨result, -, account, found, -, accounted, fits⟩ := follows.exists_result known
  simp only [graphOf, found, accounted, Option.bind_some, fits.graph]

theorem isSome_streamOf (follows : Follows accounts ran state) {id : String}
    (known : id ∈ ran.map (·.id)) :
    (streamOf accounts id).isSome = ((state.ledger.result? id).bind (·.outputStream)).isSome := by
  obtain ⟨result, -, account, found, -, accounted, fits⟩ := follows.exists_result known
  simp only [streamOf, found, accounted, Option.bind_some, fits.stream]

theorem connectedGraphs (follows : Follows accounts ran state)
    (inputsRan : ∀ input ∈ step.inputs, input ∈ ran.map (·.id)) :
    (state.ledger.connectedGraphs step).map (·.graph) =
      step.inputs.filterMap (graphOf accounts) := by
  rw [Ledger.connectedGraphs, Ledger.connectedResults, List.filterMap_filterMap, List.map_filterMap]
  exact List.filterMap_congr fun input connected => follows.graphOf_eq (inputsRan input connected)

theorem getLast?_filterMap {α β : Type} (f : α → Option β) (items : List α) :
    (items.filterMap f).getLast? = ((items.filter fun item => (f item).isSome).getLast?).bind f := by
  induction items using List.reverseRecOn with
  | nil => rfl
  | append_singleton items item ih =>
      rw [List.filterMap_append, List.filter_append]
      cases gives : f item with
      | none => simpa [gives] using ih
      | some value => simp [gives]

/-- The stream that a step is connected to is that of the supplier which the accounts name. -/
theorem connectedStream (follows : Follows accounts ran state)
    (inputsRan : ∀ input ∈ step.inputs, input ∈ ran.map (·.id)) :
    state.ledger.connectedStream step =
      (streamSource accounts step).bind fun id =>
        (state.ledger.result? id).bind (·.outputStream) := by
  rw [Ledger.connectedStream, Ledger.connectedResults, List.filterMap_filterMap, getLast?_filterMap,
    streamSource]
  refine congrArg (fun suppliers : List String => suppliers.getLast?.bind _) ?_
  exact List.filter_congr fun input connected =>
    (follows.isSome_streamOf (inputsRan input connected)).symm

/-- As long as nobody has received its stream, a result has the account that was given of it. -/
theorem account_eq (follows : Follows accounts ran state) {result : StepResult}
    (member : result ∈ state.results) (unreceived : Unreceived accounts ran result.step) :
    accounts result.step = some (result.account state.host) := by
  obtain ⟨account, accounted, fits⟩ := follows.fits result member
  have stream : account.contents.1 = result.outputStream.map state.host.contents := by
    cases handsOn : result.outputStream with
    | none =>
        have noStream := fits.stream
        rw [handsOn] at noStream
        exact Option.isSome_eq_false_iff.mp noStream.symm |> Option.isNone_iff_eq_none.mp
    | some stream =>
        have kept := follows.kept result member stream handsOn unreceived
        rwa [streamOf, accounted] at kept
  rw [accounted, StepResult.account, Host.contentsOf, fits.success, fits.metadata, fits.error]
  cases account
  simp only [Option.some.injEq, Account.mk.injEq, true_and, and_true]
  exact Prod.ext stream fits.graph.symm

theorem mem_of_streamSource {id : String} (source : streamSource accounts step = some id) :
    id ∈ step.inputs ∧ (streamOf accounts id).isSome = true :=
  List.mem_filter.mp (List.mem_of_getLast? source)

/-- The stream that a step is about to receive still holds what was said of it. -/
theorem exists_supplier (follows : Follows accounts ran state)
    (inputsRan : ∀ input ∈ step.inputs, input ∈ ran.map (·.id))
    (unreceived : ∀ id, streamSource accounts step = some id → Unreceived accounts ran id)
    {id : String} (source : streamSource accounts step = some id) :
    ∃ supplier ∈ state.results, ∃ stream, supplier.step = id ∧
      state.ledger.connectedStream step = some stream ∧ supplier.outputStream = some stream ∧
      streamOf accounts id = some (state.host.contents stream) := by
  obtain ⟨connected, hasStream⟩ := mem_of_streamSource source
  have known := inputsRan id connected
  obtain ⟨supplier, member, account, found, rfl, -⟩ := follows.exists_result known
  rw [follows.isSome_streamOf known, found] at hasStream
  obtain ⟨stream, handsOn⟩ := Option.isSome_iff_exists.mp hasStream
  refine ⟨supplier, member, stream, rfl, ?_, handsOn, ?_⟩
  · rw [follows.connectedStream inputsRan, source]
    simp only [Option.bind_some, found]
    exact handsOn
  · exact follows.kept supplier member stream handsOn (unreceived _ source)

/-- What a step receives has the contents that the accounts of its suppliers say, and the stream in
it is that of a supplier. -/
theorem begin (follows : Follows accounts ran state)
    (inputsRan : ∀ input ∈ step.inputs, input ∈ ran.map (·.id))
    (fullyWired : step.inputs = [] → operation.type = .source)
    (unreceived : ∀ id, streamSource accounts step = some id → Unreceived accounts ran id) :
    state.host.contentsOf (state.begin step operation).1 = received accounts step ∧
      Supplied accounts ran state step (state.begin step operation).1.stream := by
  by_cases unconnected : step.inputs = []
  · rw [begin_of_unconnected unconnected, if_pos (fullyWired unconnected)]
    refine ⟨?_, fun stream none => by cases none⟩
    simp only [received, streamSource, unconnected]
    rfl
  · rw [begin_of_connected unconnected]
    have graph : ((state.host.mergeGraphs (state.ledger.connectedGraphs step)).1).map (·.graph) =
        unionOf (step.inputs.filterMap (graphOf accounts)) := by
      rw [← follows.connectedGraphs inputsRan]
      exact merge_graph _ _
    cases source : streamSource accounts step with
    | none =>
        have nothing : state.ledger.connectedStream step = none := by
          rw [follows.connectedStream inputsRan, source]
          rfl
        refine ⟨Prod.ext ?_ graph, ?_⟩
        · simp only [Host.contentsOf, received, source, nothing]
          rfl
        · intro stream there
          rw [nothing] at there
          cases there
    | some id =>
        obtain ⟨supplier, member, stream, rfl, connected, handsOn, contents⟩ :=
          follows.exists_supplier inputsRan unreceived source
        refine ⟨Prod.ext ?_ graph, ?_⟩
        · simp only [Host.contentsOf, received, source, connected, Option.bind_some, contents]
          rfl
        · intro other there
          rw [connected] at there
          cases there
          exact ⟨supplier, member, handsOn, source, unreceived _ source⟩

theorem begin_host (state : State) :
    (state.begin step operation).2.host.streams = state.host.streams ∧
      (state.begin step operation).2.host.contents = state.host.contents := by
  by_cases unconnected : step.inputs = []
  · rw [begin_of_unconnected unconnected]
    exact ⟨rfl, rfl⟩
  · rw [begin_of_connected unconnected]
    exact ⟨Host.mergeGraphs_streams _ _, Host.contents_mergeGraphs _ _⟩

theorem begin_contentsOf (state : State) (payload : Payload) :
    (state.begin step operation).2.host.contentsOf payload = state.host.contentsOf payload := by
  rw [Host.contentsOf, Host.contentsOf, (begin_host state).2]

theorem unreceived_of_concat {id : String} (unreceived : Unreceived accounts (ran ++ [step]) id) :
    Unreceived accounts ran id ∧ streamSource accounts step ≠ some id :=
  ⟨fun receiver member => unreceived receiver (List.mem_append_left _ member),
    unreceived step (by simp)⟩

section Next

variable {receives handsOn : Option RecordStream} {host : Host}

/-- A stream that still nobody has received when the step has run is not what the step received. -/
theorem receives_ne (follows : Follows accounts ran state)
    (supplied : Supplied accounts ran state step receives) {other : StepResult}
    (member : other ∈ state.results) {stream : RecordStream}
    (handedOn : other.outputStream = some stream)
    (still : Unreceived accounts (ran ++ [step]) other.step) : receives ≠ some stream := by
  intro same
  obtain ⟨stillBefore, notSource⟩ := unreceived_of_concat still
  obtain ⟨supplier, supplierMember, supplies, source, unreceived⟩ := supplied stream same
  have sameStep : other.step = supplier.step :=
    follows.apart other member supplier supplierMember stream handedOn supplies stillBefore unreceived
  exact notSource (sameStep ▸ source)

/-- Nor is it what the step hands on. -/
theorem handsOn_ne (follows : Follows accounts ran state)
    (supplied : Supplied accounts ran state step receives)
    (confined : Confined receives state.host handsOn host) {other : StepResult}
    (member : other ∈ state.results) {stream : RecordStream}
    (handedOn : other.outputStream = some stream)
    (still : Unreceived accounts (ran ++ [step]) other.step) : handsOn ≠ some stream := by
  intro new
  rcases confined.handsOn stream new with same | ⟨fresh, -⟩
  · exact follows.receives_ne supplied member handedOn still same
  · exact absurd (follows.held other member stream handedOn) (Nat.not_lt.mpr fresh)

theorem holds_of_confined (follows : Follows accounts ran state)
    (supplied : Supplied accounts ran state step receives)
    (confined : Confined receives state.host handsOn host) : host.Holds handsOn := by
  intro stream new
  rcases confined.handsOn stream new with same | ⟨-, below⟩
  · obtain ⟨supplier, member, supplies, -⟩ := supplied stream same
    exact Nat.lt_of_lt_of_le (follows.held supplier member stream supplies) confined.grows
  · exact below

/-- A step that is confined to what it received leaves a state that follows the accounts, if they
have its own. -/
theorem next (follows : Follows accounts ran state) {result : StepResult}
    {verdict : Except EngineError Unit} {after : State}
    (effect : Effect step state result host verdict after)
    (recorded : Recorded (ran ++ [step]) after.ledger) (ofStep : result.step = step.id)
    (accounted : accounts step.id = some (result.account host))
    (supplied : Supplied accounts ran state step receives)
    (confined : Confined receives state.host result.outputStream host) :
    Follows accounts (ran ++ [step]) after := by
  have results : after.results = state.results ++ [result] := by
    rw [State.results, effect.ledger]
    rfl
  refine ⟨recorded, ?fits, ?held, ?kept, ?apart⟩
  all_goals rw [results]
  case fits =>
    refine List.forall_mem_append.mpr ⟨follows.fits, List.forall_mem_singleton.mpr ?_⟩
    exact ⟨_, ofStep ▸ accounted, result.fits_account host⟩
  case held =>
    rw [effect.host]
    refine List.forall_mem_append.mpr ⟨fun other member stream handedOn => ?_,
      List.forall_mem_singleton.mpr (follows.holds_of_confined supplied confined)⟩
    exact Nat.lt_of_lt_of_le (follows.held other member stream handedOn) confined.grows
  case kept =>
    rw [effect.host]
    refine List.forall_mem_append.mpr ⟨fun other member stream handedOn still => ?_,
      List.forall_mem_singleton.mpr fun stream handedOn _ => ?_⟩
    · rw [confined.keeps stream (follows.held other member stream handedOn)
        (follows.receives_ne supplied member handedOn still)]
      exact follows.kept other member stream handedOn (unreceived_of_concat still).1
    · rw [ofStep, streamOf, accounted]
      simp [StepResult.account, Host.contentsOf, StepResult.output, handedOn]
  case apart =>
    -- Of two streams still unreceived at most one is new, and a new one is none of the old.
    intro first firstMember second secondMember stream firstHandsOn secondHandsOn firstStill
      secondStill
    rcases List.mem_append.mp firstMember with firstOld | firstNew
    · rcases List.mem_append.mp secondMember with secondOld | secondNew
      · exact follows.apart first firstOld second secondOld stream firstHandsOn secondHandsOn
          (unreceived_of_concat firstStill).1 (unreceived_of_concat secondStill).1
      · obtain rfl := List.mem_singleton.mp secondNew
        exact absurd secondHandsOn
          (follows.handsOn_ne supplied confined firstOld firstHandsOn firstStill)
    · obtain rfl := List.mem_singleton.mp firstNew
      rcases List.mem_append.mp secondMember with secondOld | secondNew
      · exact absurd firstHandsOn
          (follows.handsOn_ne supplied confined secondOld secondHandsOn secondStill)
      · rw [List.mem_singleton.mp secondNew]

end Next

end Follows

end Pipeline

end RdfPipeline
