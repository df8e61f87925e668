import RdfPipeline.Builtins

/-!
# Operations that do not look at files

Streams whose items are at hand, and activities that go the same way whatever the files are. All
built-in operations but the file output are such activities unless a parameter names a file, and
the file output changes nothing but files.
-/

set_option autoImplicit false

namespace RdfPipeline

/-! ## Hosts -/

namespace Stream.Cursor

/-- The items of the cursor wait for no file. -/
def Loaded (cursor : Cursor) : Prop :=
  ∃ supply, cursor.feed = .ready supply

variable {cursor : Cursor}

theorem Loaded.supply_eq (loaded : cursor.Loaded) (files files' : Files) :
    cursor.feed.supply files = cursor.feed.supply files' := by
  obtain ⟨supply, isReady⟩ := loaded
  rw [isReady]
  rfl

theorem Loaded.pull_eq (loaded : cursor.Loaded) (files files' : Files)
    (cancellation : Cancellation) :
    cursor.pull files cancellation = cursor.pull files' cancellation := by
  unfold pull advance
  rw [loaded.supply_eq files files']

theorem advance_loaded (files : Files) (cancellation : Cancellation) (cursor : Cursor) :
    (cursor.advance files cancellation).2.1.Loaded := by
  unfold advance
  split <;> exact ⟨_, rfl⟩

theorem Loaded.pull (loaded : cursor.Loaded) (files : Files) (cancellation : Cancellation) :
    (cursor.pull files cancellation).2.1.Loaded := by
  unfold Cursor.pull
  split
  · split
    · exact loaded
    · split
      · exact loaded
      · exact advance_loaded files _ cursor
  · exact advance_loaded files cancellation cursor

end Stream.Cursor

/-- Hosts that differ at most in their files, and no stream of which waits for a file. -/
structure Host.SameButFiles (left right : Host) : Prop where
  streams : left.streams = right.streams
  cancellation : left.cancellation = right.cancellation
  freshNodes : left.freshNodes = right.freshNodes
  freshGraphs : left.freshGraphs = right.freshGraphs
  loaded : ∀ cursor, some cursor ∈ left.streams → cursor.Loaded

namespace Host.SameButFiles

variable {left right : Host}

theorem poll (same : left.SameButFiles right) :
    left.poll.1 = right.poll.1 ∧ left.poll.2.SameButFiles right.poll.2 := by
  unfold Host.poll
  rw [same.cancellation]
  exact ⟨rfl, { same with cancellation := rfl }⟩

theorem mergeGraphs (same : left.SameButFiles right) (parts : List Rdf.SharedGraph) :
    (left.mergeGraphs parts).1 = (right.mergeGraphs parts).1 ∧
      (left.mergeGraphs parts).2.SameButFiles (right.mergeGraphs parts).2 := by
  unfold Host.mergeGraphs
  rw [same.freshGraphs]
  refine ⟨rfl, ?_⟩
  split
  · exact { same with freshGraphs := rfl }
  · exact same

theorem takeStream (same : left.SameButFiles right) (stream : RecordStream) :
    (left.takeStream stream).1 = (right.takeStream stream).1 ∧
      (left.takeStream stream).2.SameButFiles (right.takeStream stream).2 ∧
      ∀ cursor, (left.takeStream stream).1 = some cursor → cursor.Loaded := by
  unfold Host.takeStream
  rw [same.streams]
  refine ⟨rfl, { same with streams := rfl, loaded := ?_ }, ?_⟩
  · intro cursor member
    rcases List.mem_or_eq_of_mem_set member with old | new
    · exact same.loaded cursor (same.streams ▸ old)
    · cases new
  · intro cursor found
    have there := List.mem_of_getElem? (Option.join_eq_some_iff.mp found)
    exact same.loaded cursor (same.streams ▸ there)

theorem openStream (same : left.SameButFiles right) {cursor : Stream.Cursor}
    (loaded : cursor.Loaded) :
    (left.openStream cursor).1 = (right.openStream cursor).1 ∧
      (left.openStream cursor).2.SameButFiles (right.openStream cursor).2 := by
  unfold Host.openStream
  rw [same.streams]
  refine ⟨rfl, { same with streams := rfl, loaded := ?_ }⟩
  intro other member
  rcases List.mem_append.mp member with old | new
  · exact same.loaded other (same.streams ▸ old)
  · obtain rfl : other = cursor := by simpa using new
    exact loaded

theorem pull (same : left.SameButFiles right) {cursor : Stream.Cursor} (loaded : cursor.Loaded) :
    (left.pull cursor).1 = (right.pull cursor).1 ∧
      (left.pull cursor).2.SameButFiles (right.pull cursor).2 ∧
      (left.pull cursor).1.2.Loaded := by
  unfold Host.pull
  rw [same.cancellation, loaded.pull_eq left.files right.files]
  exact ⟨rfl, { same with cancellation := rfl }, loaded.pull right.files right.cancellation⟩

theorem shareGraph (same : left.SameButFiles right) (graph : Rdf.Graph) :
    (left.shareGraph graph).1 = (right.shareGraph graph).1 ∧
      (left.shareGraph graph).2.SameButFiles (right.shareGraph graph).2 := by
  unfold Host.shareGraph
  rw [same.freshGraphs]
  exact ⟨rfl, { same with freshGraphs := rfl }⟩

theorem withFiles (same : left.SameButFiles right) (files : Files) :
    Host.SameButFiles { left with files } right :=
  { same with }

end Host.SameButFiles

/-! ## Activities -/

namespace Activity

variable {α β σ : Type} {post : α → Prop} {post' : β → Prop}

/-- Two ends of an activity that differ at most in the files. -/
structure Agree (post : α → Prop) (left right : Except EngineError α × Session) : Prop where
  outcome : left.1 = right.1
  notices : left.2.notices = right.2.notices
  hosts : left.2.host.SameButFiles right.2.host
  satisfied : ∀ value, left.1 = .ok value → post value

/-- The activity goes the same way whatever the files are, and what it gives satisfies `post`. -/
def IgnoresFilesWith (post : α → Prop) (activity : Activity α) : Prop :=
  ∀ left right notices, Host.SameButFiles left right →
    Agree post (activity ⟨left, notices⟩) (activity ⟨right, notices⟩)

theorem liftExcept_eq (outcome : Except EngineError α) (session : Session) :
    (liftExcept outcome : Activity α) session = (outcome, session) := by
  cases outcome <;> rfl

theorem liftExcept_of_ok {outcome : Except EngineError α} {value : α} (isOk : outcome = .ok value)
    (session : Session) : (liftExcept outcome : Activity α) session = (.ok value, session) := by
  rw [liftExcept_eq, isOk]

theorem bind_of_ok {first : Activity α} {session session' : Session} {value : α}
    (ends : first session = (.ok value, session')) (next : α → Activity β) :
    (first >>= next) session = next value session' := by
  change ExceptT.bindCont next (first session).1 (first session).2 = _
  rw [ends]
  rfl

theorem bind_of_error {first : Activity α} {session session' : Session} {error : EngineError}
    (ends : first session = (.error error, session')) (next : α → Activity β) :
    (first >>= next) session = (.error error, session') := by
  change ExceptT.bindCont next (first session).1 (first session).2 = _
  rw [ends]
  rfl

theorem withHost_eq {step : Host → α × Host} {session : Session} {value : α} {host : Host}
    (steps : step session.host = (value, host)) :
    withHost step session = (.ok value, { session with host }) := by
  unfold withHost
  rw [steps]

/-- The activity goes the same way whatever the files are. -/
abbrev IgnoresFiles (activity : Activity α) : Prop :=
  IgnoresFilesWith (fun _ => True) activity

/-- A sequence ends with its first part, or goes on where that ends. -/
theorem bind_cases (first : Activity α) (next : α → Activity β) (session : Session) :
    (∃ error session', first session = (.error error, session') ∧
      (first >>= next) session = (.error error, session')) ∨
    ∃ value session', first session = (.ok value, session') ∧
      (first >>= next) session = next value session' := by
  cases ends : first session with
  | mk outcome session' =>
    cases outcome with
    | error error => exact .inl ⟨error, session', rfl, bind_of_error ends next⟩
    | ok value => exact .inr ⟨value, session', rfl, bind_of_ok ends next⟩

namespace IgnoresFilesWith

theorem pure {value : α} (satisfied : post value) :
    IgnoresFilesWith post (Pure.pure value : Activity α) := by
  intro left right notices same
  refine ⟨rfl, rfl, same, ?_⟩
  rintro _ ⟨⟩
  exact satisfied

theorem throw (error : EngineError) : IgnoresFilesWith post (throw error : Activity α) := by
  intro left right notices same
  refine ⟨rfl, rfl, same, ?_⟩
  rintro _ ⟨⟩

theorem liftExcept (outcome : Except EngineError α) :
    IgnoresFilesWith (fun value => outcome = .ok value) (liftExcept outcome : Activity α) := by
  cases outcome with
  | ok value => exact pure rfl
  | error error => exact throw error

theorem bind {first : Activity α} {next : α → Activity β} (ignores : IgnoresFilesWith post first)
    (ignoresNext : ∀ value, post value → IgnoresFilesWith post' (next value)) :
    IgnoresFilesWith post' (first >>= next) := by
  intro left right notices same
  obtain ⟨outcome, sameNotices, hosts, satisfied⟩ := ignores left right notices same
  cases ends : first ⟨left, notices⟩ with
  | mk result session =>
    cases ends' : first ⟨right, notices⟩ with
    | mk result' session' =>
      rw [ends, ends'] at outcome sameNotices hosts
      rw [ends] at satisfied
      obtain ⟨host, notices'⟩ := session
      obtain ⟨host', notices''⟩ := session'
      dsimp only at outcome sameNotices hosts satisfied
      subst outcome sameNotices
      cases result with
      | ok value =>
          rw [bind_of_ok ends, bind_of_ok ends']
          exact ignoresNext value (satisfied value rfl) host host' _ hosts
      | error error =>
          rw [bind_of_error ends, bind_of_error ends']
          refine ⟨rfl, rfl, hosts, ?_⟩
          rintro _ ⟨⟩

theorem tell (notice : Notice) : IgnoresFiles (Activity.tell notice) := by
  intro left right notices same
  exact ⟨rfl, rfl, same, fun _ _ => trivial⟩

theorem withHost {step : Host → α × Host}
    (agrees : ∀ left right, Host.SameButFiles left right →
      (step left).1 = (step right).1 ∧ (step left).2.SameButFiles (step right).2 ∧
        post (step left).1) :
    IgnoresFilesWith post (Activity.withHost step) := by
  intro left right notices same
  obtain ⟨sameResult, hosts, satisfied⟩ := agrees left right same
  refine ⟨congrArg Except.ok sameResult, rfl, hosts, ?_⟩
  rintro _ ⟨⟩
  exact satisfied

theorem withFreshNodes (read : Nat → Except EngineError (α × Nat)) :
    IgnoresFiles (Activity.withFreshNodes read) := by
  intro left right notices same
  unfold Activity.withFreshNodes
  simp only [same.freshNodes]
  cases read right.freshNodes with
  | error error => exact ⟨rfl, rfl, same, fun _ _ => trivial⟩
  | ok result => exact ⟨rfl, rfl, { same with freshNodes := rfl }, fun _ _ => trivial⟩

/-- What looks at the host but not at its files. -/
theorem bind_host {next : Host → Activity α}
    (sameNext : ∀ left right, Host.SameButFiles left right → next left = next right)
    (ignores : ∀ host, IgnoresFilesWith post (next host)) :
    IgnoresFilesWith post (Activity.host >>= next) := by
  intro left right notices same
  have ends : ∀ host, (Activity.host >>= next) ⟨host, notices⟩ = next host ⟨host, notices⟩ :=
    fun host => bind_of_ok rfl next
  rw [ends, ends, sameNext left right same]
  exact ignores right left right notices same

theorem checkCancelled : IgnoresFiles Activity.checkCancelled := by
  have looks : IgnoresFiles Activity.isCancelled :=
    withHost fun left right same => ⟨same.poll.1, same.poll.2, trivial⟩
  refine looks.bind fun requested _ => ?_
  cases requested with
  | true => exact throw _
  | false => exact pure trivial

theorem takeStream (stream : RecordStream) :
    IgnoresFilesWith (fun taken => ∀ cursor, taken = some cursor → cursor.Loaded)
      (Activity.takeStream stream) :=
  withHost fun _ _ same => same.takeStream stream

theorem openStream {cursor : Stream.Cursor} (loaded : cursor.Loaded) :
    IgnoresFiles (Activity.openStream cursor) :=
  withHost fun _ _ same => ⟨(same.openStream loaded).1, (same.openStream loaded).2, trivial⟩

theorem shareGraph (graph : Rdf.Graph) :
    IgnoresFiles (Activity.shareGraph graph) :=
  withHost fun _ _ same => ⟨(same.shareGraph graph).1, (same.shareGraph graph).2, trivial⟩

theorem forEachWithin {consume : Outcome → σ → Activity σ}
    (ignores : ∀ outcome state, IgnoresFiles (consume outcome state))
    (pulls : Nat) {cursor : Stream.Cursor} (loaded : cursor.Loaded) (state : σ) :
    IgnoresFiles (Activity.forEachWithin consume pulls cursor state) := by
  induction pulls generalizing cursor state with
  | zero => exact pure trivial
  | succ pulls ih =>
      have pulled : IgnoresFilesWith (fun pulled => pulled.2.Loaded) (Activity.pull cursor) :=
        withHost fun _ _ same => same.pull loaded
      refine pulled.bind fun (outcome, cursor) loaded => ?_
      cases outcome with
      | none => exact pure trivial
      | some outcome => exact (ignores outcome state).bind fun state _ => ih loaded state

theorem forEach {consume : Outcome → σ → Activity σ}
    (ignores : ∀ outcome state, IgnoresFiles (consume outcome state))
    {cursor : Stream.Cursor} (loaded : cursor.Loaded) (state : σ) :
    IgnoresFiles (Activity.forEach consume cursor state) := by
  refine bind_host (fun left right same => ?_) fun host => forEachWithin ignores _ loaded state
  unfold Stream.Cursor.pullBound
  rw [loaded.supply_eq left.files right.files]

end IgnoresFilesWith

end Activity

/-! ## The file output -/

namespace Activity

variable {α β : Type} {post : α → Prop} {post' : β → Prop}

/-- The activity leaves all of the host as it was but for the files, and what it gives satisfies
`post`. -/
def ChangesOnlyFiles (post : α → Prop) (activity : Activity α) : Prop :=
  ∀ session, (∃ files, (activity session).2.host = { session.host with files }) ∧
    ∀ value, (activity session).1 = .ok value → post value

namespace ChangesOnlyFiles

theorem pure {value : α} (satisfied : post value) :
    ChangesOnlyFiles post (Pure.pure value : Activity α) := by
  intro session
  refine ⟨⟨session.host.files, rfl⟩, ?_⟩
  rintro _ ⟨⟩
  exact satisfied

theorem liftExcept (outcome : Except EngineError α) :
    ChangesOnlyFiles (fun _ => True) (liftExcept outcome : Activity α) := by
  intro session
  cases outcome <;> exact ⟨⟨session.host.files, rfl⟩, fun _ _ => trivial⟩

theorem tell (notice : Notice) : ChangesOnlyFiles (fun _ => True) (Activity.tell notice) :=
  fun session => ⟨⟨session.host.files, rfl⟩, fun _ _ => trivial⟩

theorem changeFiles (change : Files → Except Files.Fault Files) :
    ChangesOnlyFiles (fun _ => True) (Activity.changeFiles change) := by
  intro session
  unfold Activity.changeFiles
  cases change session.host.files with
  | ok files => exact ⟨⟨files, rfl⟩, fun _ _ => trivial⟩
  | error fault => exact ⟨⟨session.host.files, rfl⟩, fun _ _ => trivial⟩

theorem bind {first : Activity α} {next : α → Activity β} (changes : ChangesOnlyFiles post first)
    (changesNext : ∀ value, ChangesOnlyFiles post' (next value)) :
    ChangesOnlyFiles post' (first >>= next) := by
  intro session
  obtain ⟨⟨files, same⟩, -⟩ := changes session
  rcases bind_cases first next session with
    ⟨error, session', ends, stops⟩ | ⟨value, session', ends, goesOn⟩
  · rw [ends] at same
    rw [stops]
    refine ⟨⟨files, same⟩, ?_⟩
    rintro _ ⟨⟩
  · rw [ends] at same
    rw [goesOn]
    obtain ⟨⟨files', same'⟩, satisfied⟩ := changesNext value session'
    refine ⟨⟨files', ?_⟩, satisfied⟩
    rw [same', same]

end ChangesOnlyFiles

end Activity

theorem FileOutput.execute_changesOnlyFiles (context : OperationContext) :
    Activity.ChangesOnlyFiles
      (fun result => result.outputStream = none ∧ result.outputGraph = none)
      (FileOutput.execute context) := by
  refine (Activity.ChangesOnlyFiles.liftExcept _).bind fun path => ?_
  refine (Activity.ChangesOnlyFiles.liftExcept _).bind fun graph => ?_
  have writes : Activity.ChangesOnlyFiles (fun _ => True) (writeGraph path graph) :=
    (Activity.ChangesOnlyFiles.changeFiles _).bind fun _ => .changeFiles _
  refine writes.bind fun _ => ?_
  refine (Activity.ChangesOnlyFiles.tell _).bind fun _ => ?_
  exact (Activity.ChangesOnlyFiles.tell _).bind fun _ => .pure ⟨rfl, rfl⟩

/-! ## The other built-in operations -/

open Activity

namespace Mapping

theorem mapOutcome_ignoresFiles (plan : Plan) (interval : Nat) (outcome : Outcome)
    (progress : Progress) :
    IgnoresFiles (mapOutcome plan interval outcome progress) := by
  refine IgnoresFilesWith.checkCancelled.bind fun _ _ => ?_
  refine (IgnoresFilesWith.liftExcept outcome).bind fun record _ => ?_
  refine (IgnoresFilesWith.liftExcept (plan.rowTriples record _)).bind fun triples _ => ?_
  split
  · exact (IgnoresFilesWith.tell _).bind fun _ _ => .pure trivial
  · exact .pure trivial

theorem takeRows_ignoresFiles (context : OperationContext) :
    IgnoresFilesWith Stream.Cursor.Loaded (takeRows context) := by
  have takes : IgnoresFilesWith (fun taken => ∀ rows, taken = some (some rows) → rows.Loaded)
      (context.inputStream.mapM takeStream) := by
    cases context.inputStream with
    | none => exact .pure (by simp)
    | some stream =>
        refine (IgnoresFilesWith.takeStream stream).bind fun taken loaded => .pure ?_
        rintro rows ⟨⟩
        exact loaded rows rfl
  refine takes.bind fun taken loaded => ?_
  split
  · exact .pure (loaded _ rfl)
  · exact .throw _

theorem conclude_ignoresFiles (progress : Progress) :
    IgnoresFiles (conclude progress) := by
  refine (IgnoresFilesWith.tell _).bind fun _ _ => ?_
  refine (IgnoresFilesWith.tell _).bind fun _ _ => ?_
  refine (IgnoresFilesWith.tell _).bind fun _ _ => ?_
  refine (IgnoresFilesWith.tell _).bind fun _ _ => ?_
  exact (IgnoresFilesWith.shareGraph _).bind fun _ _ => .pure trivial

theorem execute_ignoresFiles (interval : Nat) (context : OperationContext) :
    IgnoresFiles (execute interval context) := by
  refine (takeRows_ignoresFiles context).bind fun rows loaded => ?_
  refine (IgnoresFilesWith.liftExcept (Plan.ofContext context)).bind fun plan _ => ?_
  refine (IgnoresFilesWith.forEach (mapOutcome_ignoresFiles plan interval) loaded _).bind
    fun progress _ => ?_
  exact conclude_ignoresFiles progress

end Mapping

namespace Shape

theorem judge_ignoresFiles (policy : ViolationPolicy) (graph : Rdf.SharedGraph) (report : Report) :
    IgnoresFiles (judge policy graph report) := by
  unfold judge
  split
  · exact (IgnoresFilesWith.tell _).bind fun _ _ => .pure trivial
  · exact (IgnoresFilesWith.tell _).bind fun _ _ => .pure trivial

theorem execute_ignoresFiles (config : Config) {context : OperationContext}
    (noFile : context.nonBlankText? "shapesFile" = none) : IgnoresFiles (execute config context) := by
  have reads : IgnoresFiles (readShapesText context) := by
    unfold readShapesText
    rw [noFile]
    exact .pure trivial
  refine reads.bind fun text _ => ?_
  cases text with
  | none => exact (IgnoresFilesWith.tell _).bind fun _ _ => .pure trivial
  | some text =>
      refine (IgnoresFilesWith.liftExcept (parsePolicy config.onViolation context)).bind
        fun policy _ => ?_
      refine (IgnoresFilesWith.liftExcept (requireGraph context)).bind fun graph _ => ?_
      refine (IgnoresFilesWith.withFreshNodes (parseShapes text)).bind fun shapes _ => ?_
      refine (IgnoresFilesWith.tell _).bind fun _ _ => ?_
      exact (IgnoresFilesWith.tell _).bind fun _ _ => judge_ignoresFiles policy graph _

end Shape

namespace Source

/-- An invocation that names no file takes its input from a parameter. -/
theorem openInput_ignoresFiles (operation : String) {context : OperationContext}
    (noFile : context.nonBlankText? "filePath" = none) :
    IgnoresFilesWith (fun input => ∃ text, input = .inline text) (openInput operation context) := by
  unfold openInput
  rw [noFile]
  dsimp only
  split
  next text _ => exact .pure ⟨text, rfl⟩
  next => exact .throw _

theorem readInputText_ignoresFiles (operation : String) {context : OperationContext}
    (noFile : context.nonBlankText? "filePath" = none) :
    IgnoresFiles (readInputText operation context) := by
  refine (openInput_ignoresFiles operation noFile).bind ?_
  rintro _ ⟨text, rfl⟩
  refine .bind_host (fun _ _ _ => rfl) fun host => ?_
  split
  · exact .pure trivial
  · exact .throw _

theorem streamResult_ignoresFiles (supply : Stream.Supply) :
    IgnoresFiles (streamResult (.ready supply)) :=
  (IgnoresFilesWith.openStream ⟨supply, rfl⟩).bind fun _ _ => .pure trivial

theorem RdfDocument.execute_ignoresFiles {context : OperationContext}
    (noFile : context.nonBlankText? "filePath" = none) :
    IgnoresFiles (RdfDocument.execute context) := by
  refine (IgnoresFilesWith.liftExcept (RdfDocument.parseFormat context)).bind fun format _ => ?_
  refine (readInputText_ignoresFiles RdfDocument.id noFile).bind fun text _ => ?_
  refine (IgnoresFilesWith.withFreshNodes (RdfDocument.parseGraph format text)).bind
    fun graph _ => ?_
  refine (IgnoresFilesWith.tell _).bind fun _ _ => ?_
  exact (IgnoresFilesWith.shareGraph graph).bind fun _ _ => .pure trivial

theorem JsonRecords.execute_ignoresFiles {context : OperationContext}
    (noFile : context.nonBlankText? "filePath" = none) :
    IgnoresFiles (JsonRecords.execute context) := by
  refine (openInput_ignoresFiles JsonRecords.id noFile).bind ?_
  rintro _ ⟨text, rfl⟩
  split
  · exact streamResult_ignoresFiles _
  · refine .bind_host (fun _ _ _ => rfl) fun host => ?_
    refine (IgnoresFilesWith.liftExcept _).bind fun document _ => ?_
    exact (IgnoresFilesWith.liftExcept _).bind fun items _ => streamResult_ignoresFiles _

theorem Csv.execute_ignoresFiles {context : OperationContext}
    (noFile : context.nonBlankText? "filePath" = none) : IgnoresFiles (Csv.execute context) := by
  refine (IgnoresFilesWith.liftExcept _).bind fun delimiter _ => ?_
  refine (openInput_ignoresFiles Csv.id noFile).bind ?_
  rintro _ ⟨text, rfl⟩
  split
  · refine .bind_host (fun _ _ _ => rfl) fun host => ?_
    refine (IgnoresFilesWith.liftExcept _).bind fun header _ => ?_
    exact (streamResult_ignoresFiles _).bind fun _ _ => .pure trivial
  · exact (streamResult_ignoresFiles _).bind fun _ _ => .pure trivial

end Source

theorem get?_registerAll {registry : Registry} {operations : List Operation} {id : String}
    {operation : Operation} (found : (registry.registerAll operations).get? id = some operation) :
    operation ∈ operations ∨ registry.get? id = some operation := by
  induction operations generalizing registry with
  | nil => exact .inr found
  | cons first rest ih =>
      rcases ih found with later | earlier
      · exact .inl (List.mem_cons_of_mem _ later)
      · change Dict.get? id (Dict.insert first.id first registry.byId) = _ at earlier
        rw [Dict.get?_insert] at earlier
        split at earlier
        · cases earlier
          exact .inl List.mem_cons_self
        · exact .inr earlier

theorem mem_builtins_of_get {config : Config} {id : String} {operation : Operation}
    (found : (Registry.withBuiltins config).get id = .ok operation) : operation ∈ builtins config := by
  rcases get?_registerAll (Registry.get_eq_ok_iff.mp found) with builtin | unknown
  · exact builtin
  · cases unknown

theorem eq_fileOutput_of_builtin {config : Config} {operation : Operation}
    (builtin : operation ∈ builtins config) (isOutput : operation.type = .output) :
    operation = FileOutput.operation := by
  simp only [builtins, List.mem_cons, List.not_mem_nil, or_false] at builtin
  rcases builtin with rfl | rfl | rfl | rfl | rfl | rfl
  all_goals first | rfl | cases isOutput

/-- A built-in operation looks at files only if it is the file output or a parameter names one. -/
theorem builtin_ignoresFiles {config : Config} {operation : Operation} {context : OperationContext}
    (builtin : operation ∈ builtins config) (noOutput : operation.type ≠ .output)
    (noFile : context.nonBlankText? "filePath" = none)
    (noShapes : context.nonBlankText? "shapesFile" = none) :
    IgnoresFiles (operation.execute context) := by
  simp only [builtins, List.mem_cons, List.not_mem_nil, or_false] at builtin
  rcases builtin with rfl | rfl | rfl | rfl | rfl | rfl
  · exact Source.Csv.execute_ignoresFiles noFile
  · exact Source.JsonRecords.execute_ignoresFiles noFile
  · exact Source.RdfDocument.execute_ignoresFiles noFile
  · exact Mapping.execute_ignoresFiles _ context
  · exact Shape.execute_ignoresFiles config noShapes
  · exact absurd rfl noOutput

end RdfPipeline
