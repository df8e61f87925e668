import RdfPipeline.Proofs.Pipeline.Reaching
import RdfPipeline.Proofs.Pipeline.StepEffect

/-!
# The metrics of a run

All steps of a run keep their metrics in one dictionary, each under the id of the step, a dot and
the name of the metric. There a metric has the last value that its step told of it, unless a later
step tells of a metric that goes by the same text.
-/

set_option autoImplicit false

namespace RdfPipeline

/-- The value that a notice gives to a metric. -/
def Notice.value? (name : String) : Notice → Option Binary64
  | .metric other value => if other = name then some value else none
  | .progress _ _ => none
  | .log _ _ => none

/-- The last value that is given to a metric. -/
def lastValue? (name : String) (notices : List Notice) : Option Binary64 :=
  (notices.filterMap (Notice.value? name)).getLast?

theorem lastValue?_cons (name : String) (notice : Notice) (notices : List Notice) :
    lastValue? name (notice :: notices) =
      (lastValue? name notices).or (notice.value? name) := by
  unfold lastValue?
  rw [List.filterMap_cons]
  cases notice.value? name with
  | none => exact (Option.or_none).symm
  | some value =>
      rw [List.getLast?_cons]
      cases (notices.filterMap (Notice.value? name)).getLast? with
      | none => rfl
      | some later => rfl

namespace Pipeline

/-! ## Keys -/

def metricKey (step name : String) : String :=
  step ++ "." ++ name

theorem toList_metricKey (step name : String) :
    (metricKey step name).toList = step.toList ++ '.' :: name.toList := by
  rw [metricKey, String.toList_append, String.toList_append, List.append_assoc]
  rfl

theorem metricKey_inj {step name other : String} :
    metricKey step name = metricKey step other ↔ name = other := by
  constructor
  · intro same
    have lists := congrArg String.toList same
    rw [toList_metricKey, toList_metricKey] at lists
    exact String.toList_inj.mp (List.cons.inj (List.append_cancel_left lists)).2
  · intro same
    rw [same]

/-- The first step has a shorter id, and its metric takes up the rest of the other one. -/
def Crosses (step name longer rest : String) : Prop :=
  ∃ part, longer = metricKey step part ∧ name = metricKey part rest

theorem Crosses.metricKey_eq {step name longer rest : String}
    (crosses : Crosses step name longer rest) : metricKey step name = metricKey longer rest := by
  obtain ⟨part, rfl, rfl⟩ := crosses
  simp only [metricKey, String.append_assoc]

theorem crosses_of_toList {step name longer rest : String} (different : step ≠ longer)
    {more : List Char} (extended : longer.toList = step.toList ++ more)
    (left : '.' :: name.toList = more ++ '.' :: rest.toList) : Crosses step name longer rest := by
  cases more with
  | nil =>
      rw [List.append_nil] at extended
      exact absurd (String.toList_inj.mp extended.symm) different
  | cons dot part =>
      obtain ⟨rfl, taken⟩ := List.cons.inj left
      refine ⟨String.ofList part, ?_, ?_⟩
      · apply String.toList_inj.mp
        rw [extended, toList_metricKey, String.toList_ofList]
      · apply String.toList_inj.mp
        rw [toList_metricKey, String.toList_ofList]
        exact taken

/-- Metrics of different steps go by one text only if one of them crosses the other. -/
theorem metricKey_eq_iff {step name other name' : String} (different : step ≠ other) :
    metricKey step name = metricKey other name' ↔
      Crosses step name other name' ∨ Crosses other name' step name := by
  constructor
  · intro same
    have lists := congrArg String.toList same
    rw [toList_metricKey, toList_metricKey, List.append_eq_append_iff] at lists
    cases lists with
    | inl longer =>
        obtain ⟨more, extended, left⟩ := longer
        exact .inl (crosses_of_toList different extended left)
    | inr shorter =>
        obtain ⟨more, extended, left⟩ := shorter
        exact .inr (crosses_of_toList different.symm extended left)
  · intro crosses
    cases crosses with
    | inl longer => exact longer.metricKey_eq
    | inr shorter => exact shorter.metricKey_eq.symm

/-! ## One step -/

theorem get?_relay (step name : String) (state : State) (notice : Notice) :
    Dict.get? (metricKey step name) (state.relay step notice).metrics =
      (notice.value? name).or (Dict.get? (metricKey step name) state.metrics) := by
  cases notice with
  | progress processed total => rfl
  | log level message => rfl
  | metric other value =>
      change Dict.get? (metricKey step name) (Dict.insert (metricKey step other) value _) = _
      rw [Dict.get?_insert, Notice.value?]
      by_cases same : other = name
      · rw [if_pos (congrArg _ same.symm), if_pos same]
        rfl
      · rw [if_neg fun keys => same (metricKey_inj.mp keys).symm, if_neg same]
        rfl

theorem get?_foldl_relay (step name : String) (notices : List Notice) (state : State) :
    Dict.get? (metricKey step name) (notices.foldl (State.relay step) state).metrics =
      (lastValue? name notices).or (Dict.get? (metricKey step name) state.metrics) := by
  induction notices generalizing state with
  | nil => rfl
  | cons notice rest ih =>
      rw [List.foldl_cons, ih, get?_relay, lastValue?_cons, Option.or_assoc]

theorem get?_foldl_relay_of_foreign {step key : String} (foreign : ∀ name, metricKey step name ≠ key)
    (notices : List Notice) (state : State) :
    Dict.get? key (notices.foldl (State.relay step) state).metrics =
      Dict.get? key state.metrics := by
  induction notices generalizing state with
  | nil => rfl
  | cons notice rest ih =>
      rw [List.foldl_cons, ih]
      cases notice with
      | progress processed total => rfl
      | log level message => rfl
      | metric name value =>
          change Dict.get? key (Dict.insert (metricKey step name) value _) = _
          rw [Dict.get?_insert, if_neg (foreign name).symm]

section Step

variable {setting : Setting} {step : Step} {operation : Operation}

/-- What the operation of a step tells, nothing if the step is left out. -/
def told (setting : Setting) (step : Step) (operation : Operation) (state : State) : List Notice :=
  if setting.leavesOut operation then [] else (execution setting step operation state).2.notices

/-- What a step tells is all that it does to the metrics. -/
theorem runStep_metrics (setting : Setting) (step : Step) (operation : Operation) (state : State) :
    ∃ begun : State, begun.metrics = state.metrics ∧
      (runStep setting step operation state).2.metrics =
        ((told setting step operation state).foldl (State.relay step.id) begun).metrics := by
  unfold told
  cases left : setting.leavesOut operation with
  | true =>
      refine ⟨(state.begin step operation).2, begin_metrics state, ?_⟩
      rw [runStep_of_leavesOut left, conclude_metrics]
      rfl
  | false =>
      let host := (execution setting step operation state).2.host
      refine ⟨{ (state.begin step operation).2 with host }, begin_metrics state, ?_⟩
      rw [runStep_of_not_leavesOut left, conclude_metrics]
      rfl

theorem runStep_metric_cases (setting : Setting) (step : Step) (operation : Operation)
    (state : State) (key : String) :
    (∃ name value, metricKey step.id name = key ∧
      lastValue? name (told setting step operation state) = some value ∧
      Dict.get? key (runStep setting step operation state).2.metrics = some value) ∨
    (∀ name, metricKey step.id name = key →
        lastValue? name (told setting step operation state) = none) ∧
      Dict.get? key (runStep setting step operation state).2.metrics =
        Dict.get? key state.metrics := by
  obtain ⟨begun, unchanged, relayed⟩ := runStep_metrics setting step operation state
  rw [relayed, ← unchanged]
  by_cases own : ∃ name, metricKey step.id name = key
  · obtain ⟨name, rfl⟩ := own
    rw [get?_foldl_relay]
    cases last : lastValue? name (told setting step operation state) with
    | some value => exact .inl ⟨name, value, rfl, last, rfl⟩
    | none =>
        refine .inr ⟨fun other same => ?_, rfl⟩
        rw [metricKey_inj.mp same, last]
  · have foreign := not_exists.mp own
    exact .inr ⟨fun name same => absurd same (foreign name),
      get?_foldl_relay_of_foreign foreign _ _⟩

end Step

/-! ## Reports -/

/-- A step that a run executes behind some others, and the value of a metric that it leaves. -/
structure Report where
  ran : List Step
  step : Step
  name : String
  value : Binary64

namespace Report

def key (report : Report) : String :=
  metricKey report.step.id report.name

/-- The steps up to the one that reports. -/
def through (report : Report) : List Step :=
  report.ran ++ [report.step]

end Report

/-- A run from the given state comes to the step, which tells this of the metric in the end. -/
def Reports (setting : Setting) (start : State) (report : Report) : Prop :=
  ∃ before operation ready, Reaches setting start report.ran before ∧
    Starts setting before report.step operation ready ∧
    lastValue? report.name (told setting report.step operation ready) = some report.value

section Rounds

variable {setting : Setting} {start before ready : State} {ran : List Step} {step : Step}
  {operation : Operation}

/-- A report from where a run stands is what its next step tells. -/
theorem Reports.exists_starts (reached : Reaches setting start ran before) {report : Report}
    (reports : Reports setting start report) (here : report.through = ran ++ [step]) :
    ∃ operation ready, Starts setting before step operation ready ∧
      report.step = step ∧
      lastValue? report.name (told setting step operation ready) = some report.value := by
  obtain ⟨before', operation, ready, reached', starts, last⟩ := reports
  obtain ⟨sameRan, sameStep⟩ := List.append_inj' here rfl
  have sameStep := List.singleton_inj.mp sameStep
  rw [sameRan] at reached'
  rw [sameStep] at starts last
  obtain rfl := reached'.unique reached
  exact ⟨operation, ready, starts, sameStep, last⟩

/-- When the next step does not come to its end with success, no later one reports. -/
theorem Reports.through_prefix (reached : Reaches setting start ran before)
    (fails : ∀ rest, (runSteps setting (step :: rest) before).1 ≠ .ok ()) {report : Report}
    (reports : Reports setting start report) {rest : List Step}
    (within : report.through <+: ran ++ step :: rest) : report.through <+: ran ++ [step] := by
  have next : ran ++ [step] <+: ran ++ step :: rest := ⟨rest, List.append_assoc ran [step] rest⟩
  cases List.prefix_or_prefix_of_prefix within next with
  | inl here => exact here
  | inr beyond =>
      cases List.prefix_concat_iff.mp beyond with
      | inl same => exact same ▸ List.prefix_rfl
      | inr later =>
          obtain ⟨more, extended⟩ := later
          obtain ⟨before', -, -, reached', -⟩ := reports
          have completed := runSteps_eq_ok_iff.mpr reached'
          rw [← extended, List.append_assoc, reached.runSteps_append] at completed
          exact absurd (congrArg Prod.fst completed) (fails more)

end Rounds

/-! ## The latest report -/

/-- What the latest of the reports from these steps under a key leaves there. -/
inductive Latest (setting : Setting) (start : State) (ran : List Step) (key : String) :
    Option Binary64 → Prop where
  | unreported :
      (∀ report, Reports setting start report → report.through <+: ran → report.key ≠ key) →
      Latest setting start ran key none
  | reported {last : Report} :
      Reports setting start last → last.through <+: ran → last.key = key →
      (∀ report, Reports setting start report → report.through <+: ran → report.key = key →
        report.ran.length ≤ last.ran.length) →
      Latest setting start ran key (some last.value)

namespace Latest

variable {setting : Setting} {start before ready : State} {ran : List Step} {step : Step}
  {operation : Operation} {key : String} {value : Option Binary64}

theorem begin (setting : Setting) (start : State) (key : String) :
    Latest setting start [] key none := by
  refine .unreported fun report _ within => ?_
  cases List.append_eq_nil_iff.mp (List.prefix_nil.mp within) with
  | intro _ impossible => cases impossible

/-- Steps without reports change nothing. -/
theorem extend (latest : Latest setting start ran key value) {further : List Step}
    (longer : ran <+: further)
    (silent : ∀ report, Reports setting start report → report.through <+: further →
      report.key = key → report.through <+: ran) : Latest setting start further key value := by
  cases latest with
  | unreported none =>
      refine .unreported fun report reports within same => ?_
      exact none report reports (silent report reports within same) same
  | reported reports within same last =>
      refine .reported reports (within.trans longer) same fun other others within same => ?_
      exact last other others (silent other others within same) same

theorem next (reached : Reaches setting start ran before)
    (starts : Starts setting before step operation ready)
    (latest : Latest setting start ran key (Dict.get? key before.metrics)) :
    Latest setting start (ran ++ [step]) key
      (Dict.get? key (runStep setting step operation ready).2.metrics) := by
  rcases runStep_metric_cases setting step operation ready key with
    ⟨name, value, rfl, last, found⟩ | ⟨silent, unchanged⟩
  · have reports : Reports setting start ⟨ran, step, name, value⟩ :=
      ⟨before, operation, ready, reached, starts, last⟩
    rw [found]
    refine .reported reports List.prefix_rfl rfl fun other _ within _ => ?_
    have shorter := within.length_le
    rw [Report.through, List.length_append, List.length_append] at shorter
    exact Nat.le_of_add_le_add_right shorter
  · rw [unchanged, starts.metrics_eq]
    refine latest.extend (List.prefix_append ran [step]) fun report reports within same => ?_
    cases List.prefix_concat_iff.mp within with
    | inr earlier => exact earlier
    | inl here =>
        obtain ⟨operation, ready, again, rfl, last⟩ := reports.exists_starts reached here
        obtain ⟨rfl, rfl⟩ := starts.unique again
        cases (silent report.name same).symm.trans last

theorem runSteps (reached : Reaches setting start ran before)
    (latest : Latest setting start ran key (Dict.get? key before.metrics)) (rest : List Step) :
    Latest setting start (ran ++ rest) key
      (Dict.get? key (runSteps setting rest before).2.metrics) := by
  -- Where the run ends early, the reports of the steps it left out have to be ruled out.
  induction rest generalizing ran before with
  | nil => rwa [List.append_nil]
  | cons step rest ih =>
      rcases round_cases setting step before with
        ⟨error, never, outcome, -⟩ | ⟨operation, ready, starts⟩
      · rw [outcome]
        refine latest.extend (List.prefix_append ran _) fun report reports within _ => ?_
        have within := reports.through_prefix reached (fun rest => by rw [outcome]; nofun) within
        cases List.prefix_concat_iff.mp within with
        | inr earlier => exact earlier
        | inl here =>
            obtain ⟨operation, ready, starts, -⟩ := reports.exists_starts reached here
            exact absurd starts (never operation ready)
      · have stepped := latest.next reached starts
        cases running : runStep setting step operation ready with
        | mk verdict after =>
          rw [running] at stepped
          cases verdict with
          | error error =>
              rw [runSteps_of_failed starts running]
              refine stepped.extend ⟨rest, List.append_assoc ran [step] rest⟩ ?_
              intro report reports within _
              refine reports.through_prefix reached (fun rest => ?_) within
              rw [runSteps_of_failed starts running]
              nofun
          | ok done =>
              rw [runSteps_of_succeeded starts running]
              simpa using ih (reached.next starts running) stepped

end Latest

/-! ## The metrics of a run -/

/-- A run of a pipeline on a host comes to a step, which tells this of a metric in the end. -/
def Reported (setting : Setting) (pipeline : Pipeline) (host : Host) (report : Report) : Prop :=
  ∃ rest operation ready,
    AboutToRun setting pipeline host report.ran report.step rest operation ready ∧
      lastValue? report.name (told setting report.step operation ready) = some report.value

/-- No step behind the one that reports tells of a metric that goes by the same text. -/
structure ReportedLast (setting : Setting) (pipeline : Pipeline) (host : Host)
    (last : Report) : Prop where
  reported : Reported setting pipeline host last
  latest : ∀ report, Reported setting pipeline host report → report.key = last.key →
    report.ran.length ≤ last.ran.length

theorem reported_iff {setting : Setting} {pipeline : Pipeline} {host : Host} {steps : List Step}
    (planned : plan setting.registry pipeline = .ok steps) {report : Report} :
    Reported setting pipeline host report ↔
      Reports setting (.initial host) report ∧ report.through <+: steps := by
  constructor
  · intro reported
    obtain ⟨rest, operation, ready, about, last⟩ := reported
    obtain ⟨before, reached, starts⟩ := about.reached
    obtain rfl := Except.ok.inj (planned.symm.trans about.planned)
    exact ⟨⟨before, operation, ready, reached, starts, last⟩, rest, List.append_assoc _ _ _⟩
  · intro both
    obtain ⟨⟨before, operation, ready, reached, starts, last⟩, rest, rfl⟩ := both
    rw [Report.through, List.append_assoc] at planned
    exact ⟨rest, operation, ready, ⟨planned, before, reached, starts⟩, last⟩

theorem Reports.eq_of_through_eq {setting : Setting} {start : State} {first second : Report}
    (reports : Reports setting start first) (again : Reports setting start second)
    (through : first.through = second.through) (key : first.key = second.key) :
    first = second := by
  obtain ⟨before, operation, ready, reached, starts, last⟩ := reports
  obtain ⟨operation', ready', starts', sameStep, last'⟩ := again.exists_starts reached through.symm
  obtain ⟨rfl, rfl⟩ := starts.unique starts'
  obtain ⟨ran, step, name, value⟩ := first
  obtain ⟨ran', step', name', value'⟩ := second
  obtain rfl : step' = step := sameStep
  obtain rfl : ran = ran' := List.append_cancel_right through
  obtain rfl := metricKey_inj.mp key
  obtain rfl := Option.some.inj (last.symm.trans last')
  rfl

theorem Latest.runPlan {setting : Setting} {pipeline : Pipeline} {steps : List Step}
    (planned : plan setting.registry pipeline = .ok steps) (host : Host) (key : String) :
    Latest setting (.initial host) steps key
      (Dict.get? key (runPlan setting pipeline (.initial host)).2.metrics) := by
  simp only [Pipeline.runPlan, planned]
  exact (Latest.begin setting (.initial host) key).runSteps .start steps

theorem ReportedLast.of_latest {setting : Setting} {pipeline : Pipeline} {host : Host}
    {steps : List Step} (planned : plan setting.registry pipeline = .ok steps) {last : Report}
    (reports : Reports setting (.initial host) last) (within : last.through <+: steps)
    (latest : ∀ report, Reports setting (.initial host) report → report.through <+: steps →
      report.key = last.key → report.ran.length ≤ last.ran.length) :
    ReportedLast setting pipeline host last := by
  refine ⟨(reported_iff planned).mpr ⟨reports, within⟩, fun report reported same => ?_⟩
  obtain ⟨reports, within⟩ := (reported_iff planned).mp reported
  exact latest report reports within same

/-- Two reports of one run come from the same step or one after the other. -/
theorem Report.through_cases {steps : List Step} {report last : Report}
    (within : report.through <+: steps) (lastWithin : last.through <+: steps)
    (notLater : report.ran.length ≤ last.ran.length) :
    last.through = report.through ∨ report.through <+: last.ran := by
  have lengths : report.through.length = report.ran.length + 1 ∧
      last.through.length = last.ran.length + 1 := ⟨List.length_append, List.length_append⟩
  cases Nat.lt_or_eq_of_le notLater with
  | inl earlier =>
      have ranWithin := (List.prefix_append last.ran [last.step]).trans lastWithin
      exact .inr (List.prefix_of_prefix_length_le within ranWithin (by omega))
  | inr together =>
      have sameLength : last.through.length = report.through.length := by omega
      exact .inl ((List.prefix_of_prefix_length_le lastWithin within
        sameLength.le).eq_of_length sameLength)

/-- The steps of a plan have different ids. -/
theorem Report.id_ne_of_through_prefix {steps : List Step} (distinct : (steps.map (·.id)).Nodup)
    {report last : Report} (before : report.through <+: last.ran)
    (lastWithin : last.through <+: steps) : report.step.id ≠ last.step.id := by
  obtain ⟨rest, rfl⟩ := lastWithin
  rw [through, List.append_assoc] at distinct
  have new := id_not_mem_of_nodup distinct
  intro same
  refine new (same ▸ List.mem_map_of_mem (before.subset ?_))
  exact List.mem_append_right _ (List.mem_singleton_self _)

section Runs

variable {registry : Registry} {environment : Environment} {pipeline : Pipeline}
  {bindings : Variables} {dryRun : Bool} {host : Host}

/-- The metrics of a run are what its steps report, each key as the latest of them has it. -/
theorem exists_reportedLast_of_metric {key : String} {value : Binary64}
    (found : Dict.get? key (run registry environment pipeline bindings dryRun host).1.metrics =
      some value) :
    ∃ last, ReportedLast ⟨registry, environment, pipeline.mergedVariables bindings, dryRun⟩
      pipeline host last ∧ last.key = key ∧ last.value = value := by
  let setting : Setting :=
    ⟨registry, environment, pipeline.mergedVariables bindings, dryRun⟩
  change Dict.get? key (runPlan setting pipeline (.initial host)).2.metrics = _ at found
  cases planned : plan setting.registry pipeline with
  | error error =>
      rw [runPlan, planned] at found
      cases found
  | ok steps =>
      have latest := Latest.runPlan planned host key
      rw [found] at latest
      cases latest with
      | reported reports within same latest =>
          exact ⟨_, .of_latest planned reports within (same ▸ latest), same, rfl⟩

/-- A metric has the value of the latest step that reports under its key. This is its own step, or
a later one whose id and metric cross those of the report. -/
theorem run_metric_of_reported {report : Report}
    (reported : Reported ⟨registry, environment, pipeline.mergedVariables bindings, dryRun⟩
      pipeline host report) :
    ∃ last, ReportedLast ⟨registry, environment, pipeline.mergedVariables bindings, dryRun⟩
        pipeline host last ∧
      last.key = report.key ∧
      Dict.get? report.key (run registry environment pipeline bindings dryRun host).1.metrics =
        some last.value ∧
      (last = report ∨ report.through <+: last.ran ∧
        (Crosses report.step.id report.name last.step.id last.name ∨
          Crosses last.step.id last.name report.step.id report.name)) := by
  let setting : Setting :=
    ⟨registry, environment, pipeline.mergedVariables bindings, dryRun⟩
  have about := reported
  obtain ⟨rest, operation, ready, about, -⟩ := about
  have planned := about.planned
  obtain ⟨reports, within⟩ := (reported_iff planned).mp reported
  have latest := Latest.runPlan planned host report.key
  change ∃ last, ReportedLast setting pipeline host last ∧ _ ∧
    Dict.get? report.key (runPlan setting pipeline (.initial host)).2.metrics = _ ∧ _
  generalize Dict.get? report.key (runPlan setting pipeline (.initial host)).2.metrics = held
    at latest ⊢
  cases latest with
  | unreported none => exact absurd rfl (none report reports within)
  | @reported last lastReports lastWithin same latest =>
      refine ⟨last, .of_latest planned lastReports lastWithin (same ▸ latest), same, rfl, ?_⟩
      cases Report.through_cases within lastWithin (latest report reports within rfl) with
      | inl together => exact .inl (lastReports.eq_of_through_eq reports together same)
      | inr before =>
          have different := Report.id_ne_of_through_prefix about.taken.1.distinct before lastWithin
          exact .inr ⟨before, (metricKey_eq_iff different).mp same.symm⟩

end Runs

/-! A step and a later one, whose id goes on where the metric of the first one does. -/

def gauge (id metric : String) (reading : Int) : Operation :=
  ⟨id, id, "", .transform, [], fun _ => do
    Activity.tell (.metric metric (.ofInt reading))
    return .succeeded⟩

def gauges : Registry :=
  Registry.empty.registerAll [gauge "count" "rows.read" 1, gauge "recount" "read" 2]

def twoCounts : Pipeline :=
  ⟨"counts", "Counts", [.of "load" "count", .of "load.rows" "recount"], []⟩

theorem reported_twoCounts :
    Reported ⟨gauges, fun _ => none, [], false⟩ twoCounts (.initial Files.empty .never)
      ⟨[], .of "load" "count", "rows.read", .ofInt 1⟩ := by
  let setting : Setting := ⟨gauges, fun _ => none, [], false⟩
  let start : State := .initial (.initial Files.empty .never)
  have valid : twoCounts.validate gauges = .ok () := by decide +kernel
  have ordered : order twoCounts.steps = .ok twoCounts.steps := by cbv
  have planned := plan_eq_ok_iff.mpr ⟨validate_eq_ok_iff.mp valid, ordered⟩
  have unrequested : start.poll.1 = false := by decide +kernel
  have starts : Starts setting start (.of "load" "count") (gauge "count" "rows.read" 1) _ :=
    ⟨Prod.ext unrequested rfl, rfl⟩
  exact ⟨_, _, _, ⟨planned, start, .start, starts⟩, by decide +kernel⟩

theorem run_metric_of_reported_twoCounts :
    Reported ⟨gauges, fun _ => none, [], false⟩ twoCounts (.initial Files.empty .never)
        ⟨[], .of "load" "count", "rows.read", .ofInt 1⟩ ∧
      ∃ last, ReportedLast ⟨gauges, fun _ => none, [], false⟩ twoCounts
          (.initial Files.empty .never) last ∧
        last.key = "load.rows.read" ∧
        Dict.get? "load.rows.read" (run gauges (fun _ => none) twoCounts [] false
          (.initial Files.empty .never)).1.metrics = some last.value := by
  obtain ⟨last, isLast, same, found, -⟩ :=
    @run_metric_of_reported gauges (fun _ => none) twoCounts [] false _ _ reported_twoCounts
  exact ⟨reported_twoCounts, last, isLast, same, found⟩

theorem not_metrics_kept_twoCounts :
    ¬ ∀ report,
      Reported ⟨gauges, fun _ => none, [], false⟩ twoCounts (.initial Files.empty .never) report →
        Dict.get? report.key (run gauges (fun _ => none) twoCounts [] false
          (.initial Files.empty .never)).1.metrics = some report.value := by
  intro kept
  exact absurd (kept _ reported_twoCounts) (by decide +kernel)

end Pipeline

end RdfPipeline
