import RdfPipeline.Mapping.Operation
import RdfPipeline.Proofs.Operation.FileIndependence
import RdfPipeline.Proofs.Rdf.Enumeration
import RdfPipeline.Proofs.Rdf.Union
import RdfPipeline.Proofs.Stream.Cursor

/-!
# Mapping rows together and apart

The graph of some rows is the union of what each of them gives. Where no row is named by its number,
what a row gives is its own, so that neither the order of the rows nor how often they come matters.
-/

set_option autoImplicit false

namespace RdfPipeline

/-! ## Streams of records -/

/-- A cursor over records that are at hand, which may watch for a request to cancel. -/
def Stream.Cursor.ofRecords (guarded : Bool) (records : List Record) : Stream.Cursor :=
  ⟨.ready (.ofOutcomes (records.map .ok)), guarded, false⟩

theorem Host.pull_ofRecords {host : Host} (quiet : host.cancellation.Quiet) (guarded : Bool)
    (record : Record) (records : List Record) :
    ∃ cancellation, cancellation.Quiet ∧
      host.pull (.ofRecords guarded (record :: records)) =
        ((some (.ok record), .ofRecords guarded records), { host with cancellation }) := by
  cases guarded with
  | false => exact ⟨_, quiet, rfl⟩
  | true =>
      obtain ⟨cancellation, stillQuiet, polled⟩ := quiet.poll
      refine ⟨cancellation, stillQuiet, ?_⟩
      unfold pull Stream.Cursor.pull
      simp only [Stream.Cursor.ofRecords, polled]
      rfl

theorem Host.pull_ofRecords_nil {host : Host} (quiet : host.cancellation.Quiet) (guarded : Bool) :
    ∃ cursor host', host.pull (.ofRecords guarded []) = ((none, cursor), host') := by
  cases guarded with
  | false => exact ⟨_, _, rfl⟩
  | true =>
      obtain ⟨cancellation, -, polled⟩ := quiet.poll
      unfold pull Stream.Cursor.pull
      simp only [Stream.Cursor.ofRecords, polled]
      exact ⟨_, _, rfl⟩

namespace Mapping

open Rdf (Graph Iri Triple)

/-! ## The loop over the rows -/

def Plan.mapRow (plan : Plan) (progress : Progress) (record : Record) :
    Except EngineError Progress :=
  (plan.rowTriples record (progress.processed + 1)).map fun triples =>
    ⟨progress.processed + 1, progress.graph.insertAll triples⟩

/-- The rows one after the other, without a host. -/
def Plan.mapRows (plan : Plan) (records : List Record) (progress : Progress) :
    Except EngineError Progress :=
  records.foldlM plan.mapRow progress

theorem checkCancelled_quiet {session : Session} (quiet : session.host.cancellation.Quiet) :
    ∃ session', session'.host.cancellation.Quiet ∧
      Activity.checkCancelled session = (.ok (), session') := by
  obtain ⟨cancellation, stillQuiet, polled⟩ := quiet.poll
  have looks : session.host.poll = (false, { session.host with cancellation }) := by
    unfold Host.poll
    rw [polled]
  exact ⟨_, stillQuiet, Activity.bind_of_ok (Activity.withHost_eq looks) _⟩

theorem mapOutcome_quiet (plan : Plan) (interval : Nat) (record : Record) (progress : Progress)
    {session : Session} (quiet : session.host.cancellation.Quiet) :
    ∃ session', session'.host.cancellation.Quiet ∧
      mapOutcome plan interval (.ok record) progress session =
        (plan.mapRow progress record, session') := by
  obtain ⟨checked, stillQuiet, unrequested⟩ := checkCancelled_quiet quiet
  have received : (liftExcept (.ok record : Outcome) : Activity Record) checked =
      (.ok record, checked) := rfl
  unfold mapOutcome Plan.mapRow
  rw [Activity.bind_of_ok unrequested, Activity.bind_of_ok received]
  dsimp only
  cases plan.rowTriples record (progress.processed + 1) with
  | error error => exact ⟨checked, stillQuiet, rfl⟩
  | ok triples =>
      cases milestone : isMilestone interval (progress.processed + 1) with
      | true =>
          let told := Notice.progress (progress.processed + 1) none
          exact ⟨{ checked with notices := checked.notices ++ [told] }, stillQuiet, rfl⟩
      | false => exact ⟨checked, stillQuiet, rfl⟩

/-- While nobody asks to cancel, the loop is the one without a host. -/
theorem forEachWithin_ofRecords (plan : Plan) (interval : Nat) (guarded : Bool)
    {records : List Record} {pulls : Nat} (enough : records.length < pulls) (progress : Progress)
    {session : Session} (quiet : session.host.cancellation.Quiet) :
    ∃ session', Activity.forEachWithin (mapOutcome plan interval) pulls
      (.ofRecords guarded records) progress session = (plan.mapRows records progress, session') := by
  induction pulls generalizing records progress session with
  | zero => cases enough
  | succ pulls ih =>
      rw [Activity.forEachWithin]
      cases records with
      | nil =>
          obtain ⟨cursor, host, pulled⟩ := Host.pull_ofRecords_nil quiet guarded
          have ends : Activity.pull (.ofRecords guarded []) session =
              (.ok (none, cursor), { session with host }) := Activity.withHost_eq pulled
          exact ⟨_, Activity.bind_of_ok ends _⟩
      | cons record rest =>
          obtain ⟨cancellation, stillQuiet, pulled⟩ := Host.pull_ofRecords quiet guarded record rest
          have ends : Activity.pull (.ofRecords guarded (record :: rest)) session =
              (.ok (some (.ok record), .ofRecords guarded rest),
                { session with host := { session.host with cancellation } }) :=
            Activity.withHost_eq pulled
          obtain ⟨mapped, mappedQuiet, step⟩ := @mapOutcome_quiet plan interval record progress
            { session with host := { session.host with cancellation } } stillQuiet
          rw [Activity.bind_of_ok ends, Plan.mapRows, List.foldlM_cons]
          dsimp only
          cases row : plan.mapRow progress record with
          | error error =>
              rw [row] at step
              exact ⟨mapped, Activity.bind_of_error step _⟩
          | ok after =>
              rw [row] at step
              rw [Activity.bind_of_ok step]
              exact ih (Nat.lt_of_succ_lt_succ enough) after mappedQuiet

/-! ## Rows by themselves -/

/-- The subject of the record does not come from its number. -/
def Plan.NamesSubject (plan : Plan) (record : Record) : Prop :=
  plan.subjectTemplate ≠ none ∨ plan.subjectCell? record ≠ none

/-- The record can be mapped, and these are its triples. -/
def Plan.Gives (plan : Plan) (record : Record) (triples : List Triple) : Prop :=
  ∃ number, plan.rowTriples record number = .ok triples

namespace Plan

variable {plan : Plan} {record : Record}

theorem NamesSubject.subjectText_eq (names : plan.NamesSubject record) (number other : Nat) :
    plan.subjectText record number = plan.subjectText record other := by
  unfold subjectText
  cases templated : plan.subjectTemplate with
  | some template => rfl
  | none =>
      cases named : plan.subjectCell? record with
      | some cell => rfl
      | none =>
          cases names with
          | inl template => exact absurd templated template
          | inr cell => exact absurd named cell

theorem NamesSubject.rowTriples_eq_ok_iff (names : plan.NamesSubject record) (number : Nat)
    (triples : List Triple) :
    plan.rowTriples record number = .ok triples ↔ plan.Gives record triples := by
  constructor
  · intro mapped
    exact ⟨number, mapped⟩
  · intro gives
    obtain ⟨other, mapped⟩ := gives
    unfold rowTriples subject at mapped ⊢
    rw [names.subjectText_eq other number] at mapped
    cases parsed : Iri.parse? (plan.subjectText record number) with
    | some iri =>
        rw [parsed] at mapped
        exact mapped
    | none =>
        rw [parsed] at mapped
        cases mapped

/-- What a row gives does not depend on the rows before it. -/
theorem mapRow_cases (names : plan.NamesSubject record) (progress : Progress) :
    ((∀ triples, ¬plan.Gives record triples) ∧
      ∃ error, plan.mapRow progress record = .error error) ∨
    ∃ triples, (∀ others, plan.Gives record others ↔ others = triples) ∧
      plan.mapRow progress record =
        .ok ⟨progress.processed + 1, progress.graph.insertAll triples⟩ := by
  unfold mapRow
  have gives := names.rowTriples_eq_ok_iff (progress.processed + 1)
  cases mapped : plan.rowTriples record (progress.processed + 1) with
  | error error =>
      rw [mapped] at gives
      refine .inl ⟨?_, error, rfl⟩
      intro triples given
      cases (gives triples).mpr given
  | ok triples =>
      rw [mapped] at gives
      refine .inr ⟨triples, ?_, rfl⟩
      intro others
      rw [← gives, Except.ok.injEq, eq_comm]

/-- Rows are mapped if each of them can be, and the triples of the graph are theirs. -/
theorem mapRows_cases {records : List Record}
    (names : ∀ record ∈ records, plan.NamesSubject record) (progress : Progress) :
    ((∃ record ∈ records, ∀ triples, ¬plan.Gives record triples) ∧
      ∃ error, plan.mapRows records progress = .error error) ∨
    ((∀ record ∈ records, ∃ triples, plan.Gives record triples) ∧
      ∃ after, plan.mapRows records progress = .ok after ∧
        ∀ triple, triple ∈ after.graph ↔ triple ∈ progress.graph ∨
          ∃ record ∈ records, ∃ triples, plan.Gives record triples ∧ triple ∈ triples) := by
  induction records generalizing progress with
  | nil => exact .inr ⟨by simp, progress, rfl, by simp⟩
  | cons first rest ih =>
      obtain ⟨firstNamed, restNamed⟩ := List.forall_mem_cons.mp names
      rw [mapRows, List.foldlM_cons]
      cases mapRow_cases firstNamed progress with
      | inl failed =>
          obtain ⟨givesNothing, error, row⟩ := failed
          rw [row]
          exact .inl ⟨⟨first, List.mem_cons_self, givesNothing⟩, error, rfl⟩
      | inr mapped =>
          obtain ⟨triples, gives, row⟩ := mapped
          rw [row]
          cases ih restNamed ⟨progress.processed + 1, progress.graph.insertAll triples⟩ with
          | inl failed =>
              obtain ⟨⟨record, member, givesNothing⟩, fails⟩ := failed
              exact .inl ⟨⟨record, List.mem_cons_of_mem _ member, givesNothing⟩, fails⟩
          | inr succeeded =>
              obtain ⟨restGives, after, ends, contents⟩ := succeeded
              refine .inr ⟨List.forall_mem_cons.mpr ⟨⟨triples, (gives triples).mpr rfl⟩, restGives⟩,
                after, ends, ?_⟩
              intro triple
              rw [contents, Graph.mem_insertAll_iff, or_assoc]
              simp only [List.mem_cons, or_and_right, exists_or, exists_eq_left, gives]

end Plan

/-! ## Runs -/

/-- Where rows can be mapped by a plan: nobody asks to cancel. -/
structure Plan.Setting (plan : Plan) where
  interval : Nat
  context : OperationContext
  session : Session
  /-- Whether the stream of the rows watches for a request to cancel. -/
  guarded : Bool
  planned : Plan.ofContext context = .ok plan
  quiet : session.host.cancellation.Quiet

/-- The operation on a stream of these records. -/
def Plan.Setting.map {plan : Plan} (setting : plan.Setting) (records : List Record) :
    Except EngineError OperationResult :=
  let (stream, host) := setting.session.host.openStream (.ofRecords setting.guarded records)
  (execute setting.interval { setting.context with inputStream := some stream }
    { setting.session with host }).1

/-- The result is a success with this graph, and it tells the number of its triples. -/
structure Yields (result : OperationResult) (graph : Graph) : Prop where
  success : result.success = true
  output : ∃ identity, result.outputGraph = some ⟨identity, graph⟩
  counted : Dict.get? "triplesGenerated" result.metadata = some (.ofCount graph.size)

theorem conclude_yields (progress : Progress) (session : Session) :
    ∃ result, (conclude progress session).1 = .ok result ∧ Yields result progress.graph := by
  refine ⟨_, rfl, rfl, ⟨_, rfl⟩, ?_⟩
  dsimp only [OperationResult.withMetadata]
  rw [Dict.get?_insert, if_pos rfl]

theorem takeRows_of_taken {context : OperationContext} {stream : RecordStream}
    {rows : Stream.Cursor} {session session' : Session} (given : context.inputStream = some stream)
    (taken : Activity.takeStream stream session = (.ok (some rows), session')) :
    takeRows context session = (.ok rows, session') := by
  have asked : (Option.mapM Activity.takeStream (some stream) : Activity _) session =
      (.ok (some (some rows)), session') :=
    Activity.bind_of_ok taken fun rows => pure (some rows)
  unfold takeRows
  rw [given, Activity.bind_of_ok asked]
  rfl

theorem takeStream_openStream (session : Session) (cursor : Stream.Cursor) :
    ∃ streams,
      Activity.takeStream (session.host.openStream cursor).1
        { session with host := (session.host.openStream cursor).2 } =
      (.ok (some cursor), { session with host := { session.host with streams } }) := by
  have there : (session.host.streams ++ [some cursor])[session.host.streams.length]?.join =
      some cursor := by simp
  exact ⟨_, Activity.withHost_eq (Prod.ext there rfl)⟩

namespace Plan

variable {plan : Plan}

/-- A run is the loop without a host and the conclusion from it. -/
theorem Setting.map_eq (setting : plan.Setting) (records : List Record) :
    ∃ session, setting.map records =
      match plan.mapRows records ⟨0, .empty⟩ with
      | .error error => .error error
      | .ok progress => (conclude progress session).1 := by
  let cursor := Stream.Cursor.ofRecords setting.guarded records
  obtain ⟨streams, taken⟩ := takeStream_openStream setting.session cursor
  have enough : records.length < cursor.pullBound setting.session.host.files := by
    simp [cursor, Stream.Cursor.ofRecords, Stream.Cursor.pullBound, Stream.Feed.supply,
      Stream.Supply.ofOutcomes]
  obtain ⟨mapped, loop⟩ := @forEachWithin_ofRecords plan setting.interval setting.guarded records _
    enough ⟨0, .empty⟩ { setting.session with host := { setting.session.host with streams } }
    setting.quiet
  -- The plan does not depend on the stream.
  have planned : Plan.ofContext { setting.context with
      inputStream := some (setting.session.host.openStream cursor).1 } = .ok plan := setting.planned
  refine ⟨mapped, ?_⟩
  unfold Setting.map execute
  dsimp only
  rw [Activity.bind_of_ok (takeRows_of_taken rfl taken), planned]
  cases rows : plan.mapRows records ⟨0, .empty⟩ with
  | error error =>
      rw [rows] at loop
      exact congrArg Prod.fst (Activity.bind_of_error loop conclude)
  | ok progress =>
      rw [rows] at loop
      exact congrArg Prod.fst (Activity.bind_of_ok loop conclude)

/-- A run fails if one of the rows cannot be mapped, else it yields the triples of all of them. -/
theorem Setting.map_cases (setting : plan.Setting) {records : List Record}
    (names : ∀ record ∈ records, plan.NamesSubject record) :
    ((∃ record ∈ records, ∀ triples, ¬plan.Gives record triples) ∧
      ∃ error, setting.map records = .error error) ∨
    ((∀ record ∈ records, ∃ triples, plan.Gives record triples) ∧
      ∃ result graph, setting.map records = .ok result ∧ Yields result graph ∧
        ∀ triple, triple ∈ graph ↔
          ∃ record ∈ records, ∃ triples, plan.Gives record triples ∧ triple ∈ triples) := by
  obtain ⟨session, run⟩ := setting.map_eq records
  cases mapRows_cases names ⟨0, .empty⟩ with
  | inl failed =>
      obtain ⟨givesNothing, error, rows⟩ := failed
      rw [rows] at run
      exact .inl ⟨givesNothing, error, run⟩
  | inr succeeded =>
      obtain ⟨gives, progress, rows, contents⟩ := succeeded
      obtain ⟨result, ended, yields⟩ := conclude_yields progress session
      rw [rows] at run
      refine .inr ⟨gives, result, progress.graph, run.trans ended, yields, ?_⟩
      intro triple
      rw [contents]
      exact or_iff_right List.not_mem_nil

theorem Setting.succeeds_iff (setting : plan.Setting) {records : List Record}
    (names : ∀ record ∈ records, plan.NamesSubject record) :
    (∃ result, setting.map records = .ok result) ↔
      ∀ record ∈ records, ∃ triples, plan.Gives record triples := by
  cases setting.map_cases names with
  | inl failed =>
      obtain ⟨⟨record, member, givesNothing⟩, error, fails⟩ := failed
      refine iff_of_false ?_ ?_
      · intro succeeds
        obtain ⟨result, ended⟩ := succeeds
        rw [fails] at ended
        cases ended
      · intro gives
        obtain ⟨triples, given⟩ := gives record member
        exact givesNothing triples given
  | inr succeeded =>
      obtain ⟨gives, result, -, ended, -⟩ := succeeded
      exact iff_of_true ⟨result, ended⟩ gives

theorem Setting.yields_of_ok {setting : plan.Setting} {records : List Record}
    {result : OperationResult} (names : ∀ record ∈ records, plan.NamesSubject record)
    (ended : setting.map records = .ok result) :
    ∃ graph, Yields result graph ∧ ∀ triple, triple ∈ graph ↔
      ∃ record ∈ records, ∃ triples, plan.Gives record triples ∧ triple ∈ triples := by
  cases setting.map_cases names with
  | inl failed =>
      obtain ⟨-, error, fails⟩ := failed
      rw [fails] at ended
      cases ended
  | inr succeeded =>
      obtain ⟨-, other, graph, ended', yields, contents⟩ := succeeded
      rw [ended'] at ended
      cases ended
      exact ⟨graph, yields, contents⟩

/-- Rows that are not named by their numbers can be mapped together if and only if they can be mapped
apart, to the union of the graphs. Neither their order nor how often they come matters. -/
theorem map_append_of_named {left right : List Record}
    (names : ∀ record ∈ left ++ right, plan.NamesSubject record)
    (whole first second : plan.Setting) :
    ((∃ result, whole.map (left ++ right) = .ok result) ↔
      (∃ result, first.map left = .ok result) ∧ ∃ result, second.map right = .ok result) ∧
    (∀ result one other, whole.map (left ++ right) = .ok result → first.map left = .ok one →
      second.map right = .ok other → ∃ graph graphOne graphOther, Yields result graph ∧
        Yields one graphOne ∧ Yields other graphOther ∧
        graph.SameTriples (graphOne.union graphOther)) ∧
    ∀ (again : plan.Setting) rows, (∀ record, record ∈ rows ↔ record ∈ left ++ right) →
      ((∃ result, again.map rows = .ok result) ↔
        ∃ result, whole.map (left ++ right) = .ok result) ∧
      ∀ result other, whole.map (left ++ right) = .ok result → again.map rows = .ok other →
        ∃ graph graphOther, Yields result graph ∧ Yields other graphOther ∧
          graphOther.SameTriples graph ∧
          Dict.get? "triplesGenerated" other.metadata =
            Dict.get? "triplesGenerated" result.metadata := by
  have leftNames : ∀ record ∈ left, plan.NamesSubject record := fun record member =>
    names record (List.mem_append_left right member)
  have rightNames : ∀ record ∈ right, plan.NamesSubject record := fun record member =>
    names record (List.mem_append_right left member)
  refine ⟨?together, ?union, ?rearranged⟩
  case together =>
    rw [whole.succeeds_iff names, first.succeeds_iff leftNames, second.succeeds_iff rightNames,
      List.forall_mem_append]
  case union =>
    intro result one other ended endedOne endedOther
    obtain ⟨graph, yields, contents⟩ := Setting.yields_of_ok names ended
    obtain ⟨graphOne, yieldsOne, contentsOne⟩ := Setting.yields_of_ok leftNames endedOne
    obtain ⟨graphOther, yieldsOther, contentsOther⟩ := Setting.yields_of_ok rightNames endedOther
    refine ⟨graph, graphOne, graphOther, yields, yieldsOne, yieldsOther, ?_⟩
    intro triple
    rw [Graph.mem_union_iff, contents, contentsOne, contentsOther]
    simp only [List.mem_append, or_and_right, exists_or]
  case rearranged =>
    intro again rows sameRows
    have rowsNamed : ∀ record ∈ rows, plan.NamesSubject record := fun record member =>
      names record ((sameRows record).mp member)
    constructor
    · rw [again.succeeds_iff rowsNamed, whole.succeeds_iff names]
      exact forall_congr' fun record => imp_congr_left (sameRows record)
    · intro result other ended endedOther
      obtain ⟨graph, yields, contents⟩ := Setting.yields_of_ok names ended
      obtain ⟨graphOther, yieldsOther, contentsOther⟩ := Setting.yields_of_ok rowsNamed endedOther
      have same : graphOther.SameTriples graph := by
        intro triple
        rw [contents, contentsOther]
        exact exists_congr fun record => and_congr_left fun _ => sameRows record
      refine ⟨graph, graphOther, yields, yieldsOther, same, ?_⟩
      rw [yields.counted, yieldsOther.counted, same.size_eq]

end Plan

/-! Staff by their numbers, with a list of names for one of them. -/

def staffContext : OperationContext :=
  .ofParameters
    [ ("baseUri", .text "http://ex.org/staff"),
      ("propertyMappings", .map [("name", .text "http://ex.org/name")]),
      ("subjectColumn", .text "id") ]

def staffPlan : Plan :=
  ⟨"http://ex.org/staff/", none, some "id", none, [("name", ⟨"http://ex.org/name"⟩)], []⟩

def staffSetting : staffPlan.Setting where
  interval := 2
  context := staffContext
  session := ⟨.initial .empty .never, []⟩
  guarded := true
  planned := by with_unfolding_all rfl
  quiet := ⟨rfl, rfl⟩

def ann : Record := [("id", .integer 7), ("name", .list [.text "Ann", .null, .text "Anna"])]

def bob : Record := [("id", .text " b "), ("name", .text "Bob")]

theorem map_append_of_named_staff :
    (∀ record ∈ [ann] ++ [bob], staffPlan.NamesSubject record) ∧
      ∃ result one other again, staffSetting.map ([ann] ++ [bob]) = .ok result ∧
        staffSetting.map [ann] = .ok one ∧ staffSetting.map [bob] = .ok other ∧
        staffSetting.map [bob, ann, bob] = .ok again ∧
        (∃ graph graphOne graphOther, Yields result graph ∧ Yields one graphOne ∧
          Yields other graphOther ∧ graph.SameTriples (graphOne.union graphOther)) ∧
        Dict.get? "triplesGenerated" again.metadata =
          Dict.get? "triplesGenerated" result.metadata := by
  have annNamed : staffPlan.NamesSubject ann :=
    .inr (Option.isSome_iff_ne_none.mp (by decide +kernel))
  have bobNamed : staffPlan.NamesSubject bob :=
    .inr (Option.isSome_iff_ne_none.mp (by decide +kernel))
  have names : ∀ record ∈ [ann] ++ [bob], staffPlan.NamesSubject record := by
    simp [annNamed, bobNamed]
  have sameRows : ∀ record, record ∈ [bob, ann, bob] ↔ record ∈ [ann] ++ [bob] := by
    intro record
    simp only [List.cons_append, List.nil_append, List.mem_cons, List.not_mem_nil, or_false]
    tauto
  obtain ⟨together, union, rearranged⟩ :=
    Plan.map_append_of_named names staffSetting staffSetting staffSetting
  obtain ⟨succeeds, sameGraph⟩ := rearranged staffSetting _ sameRows
  have mapped : ∃ result, staffSetting.map ([ann] ++ [bob]) = .ok result := by
    have isOk : (staffSetting.map ([ann] ++ [bob])).isOk = true := by decide +kernel
    cases outcome : staffSetting.map ([ann] ++ [bob]) with
    | error error => rw [outcome] at isOk; cases isOk
    | ok result => exact ⟨result, rfl⟩
  obtain ⟨⟨one, mappedOne⟩, ⟨other, mappedOther⟩⟩ := together.mp mapped
  obtain ⟨again, mappedAgain⟩ := succeeds.mpr mapped
  obtain ⟨result, mapped⟩ := mapped
  obtain ⟨-, -, -, -, -, sameNumber⟩ := sameGraph result again mapped mappedAgain
  exact ⟨names, result, one, other, again, mapped, mappedOne, mappedOther, mappedAgain,
    union result one other mapped mappedOne mappedOther, sameNumber⟩

end Mapping

end RdfPipeline
