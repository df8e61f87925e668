import RdfPipeline.Proofs.Decimal.Position
import RdfPipeline.Proofs.Mapping.Composition
import RdfPipeline.Proofs.Operation.GraphNumbers

/-!
# Progress and totals

While the rows of a stream are mapped, progress is told after every so many of them. If the stream
comes to its end, the totals of the run are told once and are those of its graph. An item that cannot
be mapped ends the run without totals and without a graph.
-/

set_option autoImplicit false

namespace RdfPipeline

open RdfPipeline.Stream (Cursor Supply)

/-! ## Streams as their consumer finds them -/

/-- An item of a stream, and whether its consumer finds a request to cancel behind it. -/
structure Arrival where
  outcome : Outcome
  requested : Bool

/-- The next arrival with the host and the cursor behind it, if the stream has not ended. -/
def Host.arrival? (host : Host) (cursor : Cursor) : Option (Arrival × Host × Cursor) :=
  match host.pull cursor with
  | ((none, _), _) => none
  | ((some outcome, cursor), host) => some (⟨outcome, host.poll.1⟩, host.poll.2, cursor)

theorem Host.arrival?_eq_none {host : Host} {cursor : Cursor} (ended : host.arrival? cursor = none) :
    ∃ last host', host.pull cursor = ((none, last), host') := by
  unfold arrival? at ended
  split at ended
  next last host' pulled => exact ⟨last, host', pulled⟩
  next => cases ended

theorem Host.arrival?_eq_some {host host' : Host} {cursor cursor' : Cursor} {arrival : Arrival}
    (found : host.arrival? cursor = some (arrival, host', cursor')) :
    ∃ middle, host.pull cursor = ((some arrival.outcome, cursor'), middle) ∧
      middle.poll = (arrival.requested, host') := by
  unfold arrival? at found
  split at found
  next => cases found
  next outcome next middle pulled =>
    cases found
    exact ⟨middle, pulled, rfl⟩

/-- Only errors come for ever, so that a record makes the rest of the stream shorter. -/
theorem Host.ahead_lt_of_arrival? {host host' : Host} {cursor cursor' : Cursor} {arrival : Arrival}
    {record : Record} (found : host.arrival? cursor = some (arrival, host', cursor'))
    (isRecord : arrival.outcome = .ok record) :
    (cursor'.feed.supply host'.files).ahead.length <
      (cursor.feed.supply host.files).ahead.length := by
  obtain ⟨middle, pulled, polled⟩ := arrival?_eq_some found
  obtain ⟨moves, -, -⟩ := host.pull_spec cursor
  rw [pulled, isRecord] at moves
  obtain ⟨item, rest, next, itemIsRecord, rfl⟩ := moves.of_record
  exact Supply.length_of_next?_record next itemIsRecord

theorem Rdf.Graph.insertAll_append (graph : Rdf.Graph) (front back : List Rdf.Triple) :
    graph.insertAll (front ++ back) = (graph.insertAll front).insertAll back :=
  List.foldl_append

namespace Activity

variable {σ : Type}

theorem forEachWithin_of_end {host : Host} {cursor : Cursor} (ended : host.arrival? cursor = none)
    (consume : Outcome → σ → Activity σ) (pulls : Nat) (state : σ) (notices : List Notice) :
    ∃ after, forEachWithin consume (pulls + 1) cursor state ⟨host, notices⟩ =
      (.ok state, ⟨after, notices⟩) := by
  obtain ⟨last, after, pulled⟩ := Host.arrival?_eq_none ended
  have ends : pull cursor ⟨host, notices⟩ = (.ok (none, last), ⟨after, notices⟩) :=
    withHost_eq pulled
  exact ⟨after, bind_of_ok ends _⟩

theorem forEachWithin_of_arrival {host after : Host} {cursor cursor' : Cursor} {arrival : Arrival}
    (found : host.arrival? cursor = some (arrival, after, cursor'))
    (consume : Outcome → σ → Activity σ) (pulls : Nat) (state : σ) (notices : List Notice) :
    ∃ middle, middle.poll = (arrival.requested, after) ∧
      forEachWithin consume (pulls + 1) cursor state ⟨host, notices⟩ =
        (consume arrival.outcome state >>= forEachWithin consume pulls cursor')
          ⟨middle, notices⟩ := by
  obtain ⟨middle, pulled, polled⟩ := Host.arrival?_eq_some found
  have ends : pull cursor ⟨host, notices⟩ =
      (.ok (some arrival.outcome, cursor'), ⟨middle, notices⟩) := withHost_eq pulled
  exact ⟨middle, polled, bind_of_ok ends _⟩

end Activity

namespace Mapping

open Rdf (Graph Triple)

/-! ## The rows of a run -/

/-- The triples of an arrival under the number of its row. A request to cancel goes before an error
of the stream. -/
def Plan.mapArrival (plan : Plan) (number : Nat) (arrival : Arrival) :
    Except EngineError (List Triple) :=
  if arrival.requested then .error (.cancelled none)
  else arrival.outcome.bind fun record => plan.rowTriples record number

/-- The rows of a stream, counted from a number on, are mapped to these triples, row by row, up to
the end of the stream or to an item that cannot be mapped for this error. -/
inductive Plan.MapsRows (plan : Plan) :
    Nat → Host → Cursor → List (List Triple) → Option EngineError → Prop where
  | exhausted {number : Nat} {host : Host} {cursor : Cursor} :
      host.arrival? cursor = none → MapsRows plan number host cursor [] none
  | stopped {number : Nat} {host host' : Host} {cursor cursor' : Cursor} {arrival : Arrival}
      {error : EngineError} :
      host.arrival? cursor = some (arrival, host', cursor') →
      plan.mapArrival number arrival = .error error →
      MapsRows plan number host cursor [] (some error)
  | mapped {number : Nat} {host host' : Host} {cursor cursor' : Cursor} {arrival : Arrival}
      {triples : List Triple} {rest : List (List Triple)} {failure : Option EngineError} :
      host.arrival? cursor = some (arrival, host', cursor') →
      plan.mapArrival number arrival = .ok triples →
      MapsRows plan (number + 1) host' cursor' rest failure →
      MapsRows plan number host cursor (triples :: rest) failure

section Rows

variable {plan : Plan} {number : Nat} {arrival : Arrival} {host : Host} {cursor : Cursor}
  {rows : List (List Triple)} {failure : Option EngineError}

theorem Plan.mapArrival_eq_ok {triples : List Triple}
    (mapped : plan.mapArrival number arrival = .ok triples) :
    arrival.requested = false ∧ ∃ record, arrival.outcome = .ok record ∧
      plan.rowTriples record number = .ok triples := by
  obtain ⟨outcome, requested⟩ := arrival
  cases requested with
  | true => cases mapped
  | false =>
      cases outcome with
      | error error => cases mapped
      | ok record => exact ⟨rfl, record, rfl, mapped⟩

theorem Plan.MapsRows.length_le (maps : plan.MapsRows number host cursor rows failure) :
    rows.length ≤ (cursor.feed.supply host.files).ahead.length := by
  induction maps with
  | exhausted => exact Nat.zero_le _
  | stopped => exact Nat.zero_le _
  | mapped found ofRow _ ih =>
      obtain ⟨-, record, isRecord, -⟩ := Plan.mapArrival_eq_ok ofRow
      exact Nat.lt_of_le_of_lt ih (Host.ahead_lt_of_arrival? found isRecord)

theorem Plan.exists_mapsRows (plan : Plan) (number : Nat) (host : Host) (cursor : Cursor) :
    ∃ rows failure, plan.MapsRows number host cursor rows failure := by
  generalize bound : (cursor.feed.supply host.files).ahead.length = length
  induction length using Nat.strongRecOn generalizing number host cursor with
  | ind length ih =>
      cases found : host.arrival? cursor with
      | none => exact ⟨[], none, .exhausted found⟩
      | some next =>
          obtain ⟨arrival, host', cursor'⟩ := next
          cases ofRow : plan.mapArrival number arrival with
          | error error => exact ⟨[], some error, .stopped found ofRow⟩
          | ok triples =>
              obtain ⟨-, record, isRecord, -⟩ := Plan.mapArrival_eq_ok ofRow
              have shorter := Host.ahead_lt_of_arrival? found isRecord
              rw [bound] at shorter
              obtain ⟨rest, failure, maps⟩ := ih _ shorter (number + 1) host' cursor' rfl
              exact ⟨triples :: rest, failure, .mapped found ofRow maps⟩

end Rows

/-! ## Notices about progress -/

/-- What is told about progress while so many rows are mapped, the first one under this number. -/
def milestones (interval first count : Nat) : List Notice :=
  ((List.range' first count).filter (isMilestone interval)).map fun processed =>
    .progress processed none

theorem milestones_zero (interval first : Nat) : milestones interval first 0 = [] :=
  rfl

theorem milestones_single (interval first : Nat) :
    milestones interval first 1 =
      if isMilestone interval first then [.progress first none] else [] := by
  cases told : isMilestone interval first <;> simp [milestones, told]

theorem milestones_succ (interval first count : Nat) :
    milestones interval first (count + 1) =
      milestones interval first 1 ++ milestones interval (first + 1) count := by
  rw [milestones, List.range'_succ, ← List.singleton_append, List.filter_append, List.map_append]
  rfl

theorem filter_isMilestone {interval : Nat} (positive : 0 < interval) (count : Nat) :
    (List.range' 1 count).filter (isMilestone interval) =
      (List.range (count / interval)).map fun index => (index + 1) * interval := by
  induction count with
  | zero => simp
  | succ count ih =>
      have same : max interval 1 = interval := Nat.max_eq_left positive
      rw [List.range'_concat, List.filter_append, ih, Nat.succ_div, Nat.one_mul, Nat.add_comm 1]
      by_cases multiple : interval ∣ count + 1
      · have reached : (count / interval + 1) * interval = count + 1 := by
          have quotient := Nat.succ_div_of_dvd multiple
          rw [← quotient]
          exact Nat.div_mul_cancel multiple
        have isOne : isMilestone interval (count + 1) = true := by
          rw [isMilestone, same, beq_iff_eq]
          exact Nat.mod_eq_zero_of_dvd multiple
        rw [if_pos multiple, List.range_succ, List.map_append, List.filter_cons_of_pos isOne]
        simp [reached]
      · have isNone : ¬isMilestone interval (count + 1) = true := by
          rw [isMilestone, same, beq_iff_eq]
          exact fun rest => multiple (Nat.dvd_of_mod_eq_zero rest)
        rw [if_neg multiple, List.filter_cons_of_neg isNone]
        simp

/-- Counted from the first row on, progress is told at the multiples of the interval. -/
theorem milestones_one {interval : Nat} (positive : 0 < interval) (count : Nat) :
    milestones interval 1 count =
      (List.range (count / interval)).map fun index =>
        .progress ((index + 1) * interval) none := by
  rw [milestones, filter_isMilestone positive, List.map_map]
  rfl

/-! ## One row and all rows -/

section Loop

variable {plan : Plan} {interval : Nat} {outcome : Outcome} {requested : Bool}
  {progress : Progress} {host after : Host} {notices : List Notice}

theorem checkCancelled_of_polled (polled : host.poll = (requested, after)) :
    Activity.checkCancelled ⟨host, notices⟩ =
      (if requested then .error (.cancelled none) else .ok (), ⟨after, notices⟩) := by
  have looks : Activity.isCancelled ⟨host, notices⟩ = (.ok requested, ⟨after, notices⟩) :=
    Activity.withHost_eq polled
  rw [Activity.checkCancelled, Activity.bind_of_ok looks]
  cases requested <;> rfl

/-- Of an item that cannot be mapped nothing is told. -/
theorem mapOutcome_of_error {error : EngineError} (polled : host.poll = (requested, after))
    (stopped : plan.mapArrival (progress.processed + 1) ⟨outcome, requested⟩ = .error error) :
    mapOutcome plan interval outcome progress ⟨host, notices⟩ =
      (.error error, ⟨after, notices⟩) := by
  have checked := @checkCancelled_of_polled _ _ _ notices polled
  unfold mapOutcome
  cases requested with
  | true =>
      cases stopped
      exact Activity.bind_of_error checked _
  | false =>
      rw [Activity.bind_of_ok checked]
      cases outcome with
      | error failure =>
          cases stopped
          exact Activity.bind_of_error (Activity.liftExcept_eq _ _) _
      | ok record =>
          have ofRow : plan.rowTriples record (progress.processed + 1) = .error error := stopped
          rw [Activity.bind_of_ok (Activity.liftExcept_eq _ _)]
          dsimp only
          rw [ofRow]
          exact Activity.bind_of_error (Activity.liftExcept_eq _ _) _

theorem mapOutcome_of_ok {triples : List Triple} (polled : host.poll = (requested, after))
    (mapped : plan.mapArrival (progress.processed + 1) ⟨outcome, requested⟩ = .ok triples) :
    mapOutcome plan interval outcome progress ⟨host, notices⟩ =
      (.ok ⟨progress.processed + 1, progress.graph.insertAll triples⟩,
        ⟨after, notices ++ milestones interval (progress.processed + 1) 1⟩) := by
  obtain ⟨rfl, record, isRecord, ofRow⟩ := Plan.mapArrival_eq_ok mapped
  obtain rfl : outcome = .ok record := isRecord
  have checked := @checkCancelled_of_polled _ _ _ notices polled
  unfold mapOutcome
  rw [Activity.bind_of_ok checked, Activity.bind_of_ok (Activity.liftExcept_eq _ _)]
  dsimp only
  rw [ofRow, Activity.bind_of_ok (Activity.liftExcept_eq _ _), milestones_single]
  cases isMilestone interval (progress.processed + 1) with
  | true => rfl
  | false =>
      rw [if_neg Bool.false_ne_true, if_neg Bool.false_ne_true, List.append_nil]
      rfl

/-- What the loop over the rows comes to with this progress. -/
def endOfRows (failure : Option EngineError) (progress : Progress) : Except EngineError Progress :=
  failure.elim (.ok progress) .error

/-- The loop maps the rows of its stream and tells of nothing but their milestones. -/
theorem Plan.MapsRows.forEachWithin_eq {cursor : Cursor} {rows : List (List Triple)}
    {failure : Option EngineError}
    (maps : plan.MapsRows (progress.processed + 1) host cursor rows failure) {pulls : Nat}
    (enough : rows.length ≤ pulls) (interval : Nat) (notices : List Notice) :
    ∃ after, Activity.forEachWithin (mapOutcome plan interval) (pulls + 1) cursor progress
        ⟨host, notices⟩ =
      (endOfRows failure
          ⟨progress.processed + rows.length, progress.graph.insertAll rows.flatten⟩,
        ⟨after, notices ++ milestones interval (progress.processed + 1) rows.length⟩) := by
  -- Every row is one pull; the number of the first row moves with the progress.
  generalize first : progress.processed + 1 = number at maps
  induction maps generalizing progress pulls notices with
  | exhausted ended =>
      obtain ⟨after, ends⟩ := Activity.forEachWithin_of_end ended
        (mapOutcome plan interval) pulls progress notices
      refine ⟨after, ends.trans ?_⟩
      rw [List.length_nil, milestones_zero, List.append_nil]
      rfl
  | @stopped _ _ after _ _ _ _ found cannot =>
      subst first
      obtain ⟨middle, polled, goesOn⟩ := Activity.forEachWithin_of_arrival found
        (mapOutcome plan interval) pulls progress notices
      have stops := @mapOutcome_of_error plan interval _ _ progress _ _ notices _ polled cannot
      refine ⟨after, goesOn.trans ((Activity.bind_of_error stops _).trans ?_)⟩
      rw [List.length_nil, milestones_zero, List.append_nil]
      rfl
  | @mapped _ _ _ _ _ _ triples rest _ found ofRow _ ih =>
      subst first
      obtain ⟨pulls, rfl⟩ := Nat.exists_eq_succ_of_ne_zero (Nat.ne_zero_of_lt enough)
      obtain ⟨middle, polled, goesOn⟩ := Activity.forEachWithin_of_arrival found
        (mapOutcome plan interval) (pulls + 1) progress notices
      have step := @mapOutcome_of_ok plan interval _ _ progress _ _ notices _ polled ofRow
      obtain ⟨last, further⟩ := @ih
        ⟨progress.processed + 1, progress.graph.insertAll triples⟩ pulls
        (Nat.le_of_succ_le_succ enough)
        (notices ++ milestones interval (progress.processed + 1) 1) rfl
      refine ⟨last, goesOn.trans ((Activity.bind_of_ok step _).trans (further.trans ?_))⟩
      have total : progress.processed + 1 + rest.length = progress.processed + (rest.length + 1) := by
        omega
      rw [List.length_cons, milestones_succ interval (progress.processed + 1) rest.length,
        List.append_assoc, List.flatten_cons, Graph.insertAll_append, total]

end Loop

/-! ## Runs -/

/-- The numbers of progress that are told while so many rows are mapped. -/
def multiples (interval count : Nat) : List Notice :=
  (List.range (count / interval)).map fun index => .progress ((index + 1) * interval) none

/-- What is told at the end of a stream. -/
def totals (rows triples : Nat) : List Notice :=
  [ .progress rows (some rows),
    .log .info ("Mapped " ++ toString rows ++ " rows into " ++ toString triples ++ " triples"),
    .metric "rowsProcessed" (Binary64.ofInt rows),
    .metric "triplesGenerated" (Binary64.ofInt triples) ]

/-- A success with the graph of these rows, which has the number of either in its metadata. -/
structure HandsOn (rows : List (List Triple)) (graph : Graph) (result : OperationResult) : Prop where
  success : result.success = true
  output : ∃ identity, result.outputGraph = some ⟨identity, graph⟩
  triples : ∀ triple, triple ∈ graph ↔ triple ∈ rows.flatten
  rowsProcessed : Dict.get? "rowsProcessed" result.metadata = some (.ofCount rows.length)
  triplesGenerated : Dict.get? "triplesGenerated" result.metadata = some (.ofCount graph.size)

/-- What a run over these rows tells and hands on, at the end of its stream and at an error. -/
structure Reports (interval : Nat) (rows : List (List Triple)) (failure : Option EngineError)
    (before : Session) (run : Except EngineError OperationResult × Session) : Prop where
  finished : failure = none → ∃ graph result, run.1 = .ok result ∧ HandsOn rows graph result ∧
    run.2.notices =
      before.notices ++ multiples interval rows.length ++ totals rows.length graph.size
  stopped : ∀ error, failure = some error → run.1 = .error error ∧
    run.2.notices = before.notices ++ multiples interval rows.length ∧
    run.2.host.freshGraphs = before.host.freshGraphs

theorem conclude_handsOn {rows : List (List Triple)} {progress : Progress}
    (processed : progress.processed = rows.length)
    (mapped : progress.graph = Graph.empty.insertAll rows.flatten) (session : Session) :
    ∃ result, (conclude progress session).1 = .ok result ∧ HandsOn rows progress.graph result ∧
      (conclude progress session).2.notices =
        session.notices ++ totals rows.length progress.graph.size := by
  have contents : ∀ triple, triple ∈ progress.graph ↔ triple ∈ rows.flatten := by
    intro triple
    rw [mapped, Graph.mem_insertAll_iff]
    exact or_iff_right List.not_mem_nil
  rw [← processed]
  refine ⟨_, rfl, ⟨rfl, ⟨_, rfl⟩, contents, ?_, ?_⟩, ?_⟩
  · rw [← processed]
    dsimp only [OperationResult.withMetadata]
    rw [Dict.get?_insert, if_neg (by decide), Dict.get?_insert, if_pos rfl]
  · dsimp only [OperationResult.withMetadata]
    rw [Dict.get?_insert, if_pos rfl]
  · have inOne : ∀ progress log rows triples : Notice,
        session.notices ++ [progress] ++ [log] ++ [rows] ++ [triples] =
          session.notices ++ [progress, log, rows, triples] := by
      simp
    exact inOne _ _ _ _

section Runs

variable {config : Config} {context : OperationContext} {session : Session}
  {stream : RecordStream} {cursor : Cursor} {host : Host} {plan : Plan}
  {rows : List (List Triple)} {failure : Option EngineError}

/-- Once the stream is taken and the plan accepted, a run is the loop over the rows and what is
concluded from it. -/
theorem execute_eq_forEachWithin (given : context.inputStream = some stream)
    (taken : session.host.takeStream stream = (some cursor, host))
    (planned : Plan.ofContext context = .ok plan) :
    (operation config).execute context session =
      (Activity.forEachWithin (mapOutcome plan config.progressInterval)
        (cursor.pullBound host.files) cursor ⟨0, .empty⟩ >>= conclude) ⟨host, session.notices⟩ := by
  have takes : Activity.takeStream stream session = (.ok (some cursor), ⟨host, session.notices⟩) :=
    Activity.withHost_eq taken
  have accepts := Activity.liftExcept_of_ok planned ⟨host, session.notices⟩
  have looks : Activity.host ⟨host, session.notices⟩ = (.ok host, ⟨host, session.notices⟩) := rfl
  change execute config.progressInterval context session = _
  rw [execute, Activity.bind_of_ok (takeRows_of_taken given takes), Activity.bind_of_ok accepts,
    Activity.forEach, bind_assoc, Activity.bind_of_ok looks]

theorem Plan.MapsRows.reports (maps : plan.MapsRows 1 host cursor rows failure)
    (positive : 0 < config.progressInterval) (given : context.inputStream = some stream)
    (taken : session.host.takeStream stream = (some cursor, host))
    (planned : Plan.ofContext context = .ok plan) :
    Reports config.progressInterval rows failure session
      ((operation config).execute context session) := by
  have bound : cursor.pullBound host.files =
      (cursor.feed.supply host.files).ahead.length + 1 + 1 := rfl
  rw [execute_eq_forEachWithin given taken planned, bound]
  have enough : rows.length ≤ (cursor.feed.supply host.files).ahead.length + 1 :=
    Nat.le_succ_of_le maps.length_le
  have steady := Activity.Steady.forEachWithin (mapOutcome_steady plan config.progressInterval)
    ((cursor.feed.supply host.files).ahead.length + 1 + 1) cursor ⟨0, .empty⟩
    ⟨host, session.notices⟩
  obtain ⟨after, loop⟩ := @Plan.MapsRows.forEachWithin_eq plan ⟨0, .empty⟩ host cursor rows failure
    maps _ enough config.progressInterval session.notices
  have told : milestones config.progressInterval (0 + 1) rows.length =
      multiples config.progressInterval rows.length := milestones_one positive rows.length
  rw [told] at loop
  constructor
  · rintro rfl
    have ended := Activity.bind_of_ok loop conclude
    obtain ⟨result, succeeds, handsOn, notices⟩ := @conclude_handsOn rows
      ⟨0 + rows.length, Graph.empty.insertAll rows.flatten⟩ (Nat.zero_add _) rfl
      ⟨after, session.notices ++ multiples config.progressInterval rows.length⟩
    rw [ended]
    exact ⟨_, result, succeeds, handsOn, notices⟩
  · rintro error rfl
    have ended := Activity.bind_of_error loop conclude
    have kept : after.freshGraphs = session.host.freshGraphs := by
      rw [loop] at steady
      have same : host.freshGraphs = session.host.freshGraphs :=
        congrArg (fun taken => taken.2.freshGraphs) taken.symm
      exact steady.trans same
    rw [ended]
    exact ⟨rfl, rfl, kept⟩

/-- A count below the bound of exact integers is told as it is. -/
theorem ofCount_exact {count : Nat} (small : count < 2 * Binary64.fractions) :
    (Binary64.ofInt count).toInt? = some (count : Int) ∧
      ∃ word, Value.ofCount count = .integer word ∧ word.toInt = count := by
  refine ⟨Binary64.toInt?_ofInt small, _, rfl, ?_⟩
  have inRange : Int64.minValue.toInt ≤ (count : Int) ∧ (count : Int) ≤ Int64.maxValue.toInt := by
    have least : Int64.minValue.toInt ≤ 0 := by decide
    have most : ((2 * Binary64.fractions : Nat) : Int) ≤ Int64.maxValue.toInt := by decide
    omega
  rw [Value.clampInteger, Decimal.int64?, dif_pos inRange]
  exact Int64.toInt_ofIntLE

/-- Every stream whose run starts is mapped up to its end or to an error. The run tells its progress
at the multiples of the interval, its totals at the end, and nothing else; counts are told exactly
as long as a binary number can. -/
theorem progress_and_totals (positive : 0 < config.progressInterval)
    (given : context.inputStream = some stream)
    (taken : session.host.takeStream stream = (some cursor, host))
    (planned : Plan.ofContext context = .ok plan) :
    (∃ rows failure, plan.MapsRows 1 host cursor rows failure) ∧
      (∀ rows failure, plan.MapsRows 1 host cursor rows failure →
        Reports config.progressInterval rows failure session
          ((operation config).execute context session)) ∧
      ∀ count : Nat, count < 2 * Binary64.fractions →
        (Binary64.ofInt count).toInt? = some (count : Int) ∧
          ∃ word, Value.ofCount count = .integer word ∧ word.toInt = count := by
  refine ⟨plan.exists_mapsRows 1 host cursor, ?_, fun _ => ofCount_exact⟩
  intro rows failure maps
  exact maps.reports positive given taken planned

end Runs

/-! Three rows of staff with an error behind them, and told about after every second row. -/

def staffConfig : Config := { progressInterval := 2 }

def staffRows (last : List Outcome) : Cursor :=
  .watching (.ready (.ofOutcomes ([.ok ann, .ok bob, .ok ann] ++ last)))

def staffSession (last : List Outcome) : Session :=
  ⟨((Host.initial .empty .never).openStream (staffRows last)).2, []⟩

def staffHost (polls : Nat) : Host :=
  { Host.initial .empty ⟨false, polls, none⟩ with streams := [none] }

def staffRun (last : List Outcome) : Except EngineError OperationResult × Session :=
  (operation staffConfig).execute { staffContext with inputStream := some ⟨0⟩ } (staffSession last)

theorem mapArrival_staff :
    (∃ triples, staffPlan.mapArrival 1 ⟨.ok ann, false⟩ = .ok triples) ∧
      (∃ triples, staffPlan.mapArrival 2 ⟨.ok bob, false⟩ = .ok triples) ∧
      ∃ triples, staffPlan.mapArrival 3 ⟨.ok ann, false⟩ = .ok triples := by
  have isOk : ∀ {outcome : Except EngineError (List Triple)}, outcome.isOk = true →
      ∃ triples, outcome = .ok triples := by
    intro outcome isOk
    cases outcome with
    | error error => cases isOk
    | ok triples => exact ⟨triples, rfl⟩
  exact ⟨isOk (by decide +kernel), isOk (by decide +kernel), isOk (by decide +kernel)⟩

theorem progress_and_totals_staff :
    0 < staffConfig.progressInterval ∧
      (∃ graph result, (staffRun []).1 = .ok result ∧
        (∃ identity, result.outputGraph = some ⟨identity, graph⟩) ∧
        (staffRun []).2.notices = [.progress 2 none] ++ totals 3 graph.size) ∧
      (staffRun [.error (.io "gone")]).1 = .error (.io "gone") ∧
      (staffRun [.error (.io "gone")]).2.notices = [.progress 2 none] := by
  obtain ⟨⟨first, one⟩, ⟨second, two⟩, third, three⟩ := mapArrival_staff
  have positive : 0 < staffConfig.progressInterval := by decide
  have told : [] ++ multiples staffConfig.progressInterval 3 = [.progress 2 none] := by decide
  have run : ∀ last rows failure, staffPlan.MapsRows 1 (staffHost 0) (staffRows last) rows failure →
      Reports staffConfig.progressInterval rows failure (staffSession last) (staffRun last) := by
    intro last
    have ends := @progress_and_totals staffConfig
      { staffContext with inputStream := some ⟨0⟩ } (staffSession last) ⟨0⟩ (staffRows last)
      (staffHost 0) staffPlan positive rfl rfl staffSetting.planned
    exact ends.2.1
  have whole : staffPlan.MapsRows 1 (staffHost 0) (staffRows []) [first, second, third] none :=
    .mapped rfl one (.mapped rfl two (.mapped rfl three (.exhausted rfl)))
  have broken : staffPlan.MapsRows 1 (staffHost 0) (staffRows [.error (.io "gone")])
      [first, second, third] (some (.io "gone")) :=
    .mapped rfl one (.mapped rfl two (.mapped rfl three (.stopped rfl rfl)))
  obtain ⟨graph, result, succeeds, handsOn, notices⟩ := (run [] _ _ whole).finished rfl
  obtain ⟨fails, noticesBefore, -⟩ := (run [.error (.io "gone")] _ _ broken).stopped _ rfl
  exact ⟨positive,
    ⟨graph, result, succeeds, handsOn.output,
      notices.trans (congrArg (· ++ totals 3 graph.size) told)⟩,
    fails, noticesBefore.trans told⟩

end Mapping

end RdfPipeline
