import Mathlib.Data.List.Induction
import RdfPipeline.Proofs.Stream.Collecting

/-!
# Single consumers

A stream may be known under any number of handles, and whoever has one may do with it what it likes,
in any order. Only the first to take or to collect it obtains its cursor, everybody sees from then on
that it is consumed, and what is pulled of its source goes to that consumer alone, item after item.

Sources are lists of items here. A history of pulls looks at finitely many of them, and a collection
of a source without an end never answers.
-/

set_option autoImplicit false

namespace RdfPipeline

open RdfPipeline.Stream (Cursor Feed Supply Position)

/-! ## Histories -/

namespace Stream

/-- What may be done with a stream. Handles, and cursors that have been handed out, are numbered in
the order in which they came about. -/
inductive Act where
  | clone (handle : Nat)
  | take (handle : Nat)
  | collect (handle : Nat)
  | look (handle : Nat)
  | next (cursor : Nat)

/-- An act with its answer. -/
inductive Event where
  | cloned
  | took (obtained : Bool)
  /-- With all that was pulled, if the cursor was obtained. -/
  | collected (pulled : Option (List Outcome)) (answer : Except EngineError (List Record))
  | looked (consumed : Bool)
  | advanced (cursor : Nat) (outcome : Option Outcome)

namespace Event

/-- Whether the event gives the cursor of the stream to somebody. -/
def obtains : Event → Bool
  | took obtained => obtained
  | collected pulled _ => pulled.isSome
  | _ => false

/-- The items of the source that the event hands out. -/
def items : Event → List Outcome
  | collected (some pulled) _ => pulled
  | advanced _ outcome => outcome.toList
  | _ => []

/-- Possible while nobody has obtained the cursor. -/
inductive Early : Event → Prop where
  | cloned : Early .cloned
  | took : Early (.took true)
  | collected (pulled : List Outcome) (answer : Except EngineError (List Record)) :
      Early (.collected (some pulled) answer)
  | looked : Early (.looked false)

/-- Possible once somebody has obtained the cursor. -/
inductive Late : Event → Prop where
  | cloned : Late .cloned
  | took : Late (.took false)
  | collected : Late (.collected none (.ok []))
  | looked : Late (.looked true)
  | advanced (cursor : Nat) (outcome : Option Outcome) : Late (.advanced cursor outcome)

end Event

structure History where
  host : Host
  handles : List RecordStream
  cursors : List Cursor
  events : List Event

namespace History

/-- A new stream under one handle. -/
def opened (host : Host) (cursor : Cursor) : History :=
  let (stream, host) := host.openStream cursor
  ⟨host, [stream], [], []⟩

/-- One act. Those on handles or cursors that nobody has do not happen. -/
def perform (history : History) : Act → History
  | .clone handle =>
      match history.handles[handle]? with
      | none => history
      | some stream =>
          { history with
            handles := history.handles ++ [stream], events := history.events ++ [.cloned] }
  | .take handle =>
      match history.handles[handle]? with
      | none => history
      | some stream =>
          let (taken, host) := history.host.takeStream stream
          { history with
            host
            cursors := history.cursors ++ taken.toList
            events := history.events ++ [.took taken.isSome] }
  | .collect handle =>
      match history.handles[handle]? with
      | none => history
      | some stream =>
          let (answer, session) := Activity.collectRecords stream ⟨history.host, []⟩
          let (taken, start) := history.host.takeStream stream
          let pulled := taken.map fun cursor =>
            (start.pullToEnd (cursor.pullBound start.files) cursor).1
          { history with
            host := session.host
            events := history.events ++ [.collected pulled answer] }
  | .look handle =>
      match history.handles[handle]? with
      | none => history
      | some stream =>
          { history with
            events := history.events ++ [.looked (history.host.isConsumed stream)] }
  | .next number =>
      match history.cursors[number]? with
      | none => history
      | some cursor =>
          let ((outcome, cursor), host) := history.host.pull cursor
          { history with
            host
            cursors := history.cursors.set number cursor
            events := history.events ++ [.advanced number outcome] }

def performAll (history : History) (acts : List Act) : History :=
  acts.foldl perform history

/-- Whether anybody has obtained the cursor. -/
def consumed (history : History) : Bool :=
  history.events.any Event.obtains

/-- All items that have been handed out, in the order of time. -/
def items (history : History) : List Outcome :=
  history.events.flatMap Event.items

end History

/-! ## What a history keeps -/

/-- Every event fits what was obtained before it. -/
def Answered (events : List Event) : Prop :=
  ∀ before event after, events = before ++ event :: after →
    (before.any Event.obtains = false → event.Early) ∧
      (before.any Event.obtains = true → event.Late)

theorem Answered.concat {events : List Event} (answered : Answered events) {event : Event}
    (early : events.any Event.obtains = false → event.Early)
    (late : events.any Event.obtains = true → event.Late) : Answered (events ++ [event]) := by
  intro before found after same
  cases List.eq_nil_or_concat after with
  | inl isLast =>
      subst isLast
      obtain ⟨rfl, isNew⟩ := List.append_inj' same rfl
      cases isNew
      exact ⟨early, late⟩
  | inr isEarlier =>
      obtain ⟨rest, last, rfl⟩ := isEarlier
      rw [List.concat_eq_append, ← List.cons_append, ← List.append_assoc] at same
      exact answered before found rest (List.append_inj' same rfl).1

theorem Answered.of_concat {events : List Event} {event : Event}
    (answered : Answered (events ++ [event])) : Answered events := by
  intro before found after same
  apply answered before found (after ++ [event])
  rw [same, List.append_assoc]
  rfl

theorem Answered.countP_le_one {events : List Event} (answered : Answered events) :
    events.countP Event.obtains ≤ 1 := by
  induction events using List.reverseRecOn with
  | nil => exact Nat.zero_le 1
  | append_singleton events event ih =>
      have earlier := ih answered.of_concat
      have fits := answered events event [] rfl
      rw [List.countP_append, List.countP_singleton]
      cases obtained : events.any Event.obtains with
      | true =>
          have obtainsNothing : event.obtains = false := by
            cases fits.2 obtained <;> rfl
          rw [obtainsNothing]
          exact earlier
      | false =>
          have none : events.countP Event.obtains = 0 := by
            rw [List.countP_eq_zero]
            simpa using obtained
          rw [none]
          split <;> decide

namespace History

variable {source : Supply} {files : Files} {guarded : Bool} {history next : History}
  {event : Event}

/-- Who has obtained the cursor, and how far the source has been pulled for it. -/
inductive Consumer (source : Supply) (files : Files) (guarded : Bool) (history : History) : Prop where
  | nobody :
      history.consumed = false → history.cursors = [] → history.items = [] →
      (∀ number outcome, .advanced number outcome ∉ history.events) →
      Consumer source files guarded history
  | holder {cursor : Cursor} :
      .took true ∈ history.events → history.cursors = [cursor] →
      Position source files guarded history.items cursor →
      (∀ number outcome, .advanced number outcome ∈ history.events → number = 0) →
      (∀ pulled answer, .collected (some pulled) answer ∉ history.events) →
      Consumer source files guarded history
  | collector {pulled : List Outcome} {answer : Except EngineError (List Record)} {last : Cursor} :
      .collected (some pulled) answer ∈ history.events → history.cursors = [] →
      history.items = pulled → Gathered pulled answer →
      Position source files guarded pulled last →
      ((∃ error, .error error ∈ pulled) ∨ source.Holds pulled) →
      (∀ number outcome, .advanced number outcome ∉ history.events) →
      (∀ pulled' answer', .collected (some pulled') answer' ∈ history.events →
        pulled' = pulled ∧ answer' = answer) →
      Consumer source files guarded history

theorem consumed_of_mem (member : event ∈ history.events) (obtains : event.obtains = true) :
    history.consumed = true :=
  List.any_eq_true.mpr ⟨event, member, obtains⟩

theorem items_concat (events : next.events = history.events ++ [event]) :
    next.items = history.items ++ event.items := by
  simp [items, events]

theorem events_perform (history : History) (act : Act) :
    history.events <+: (history.perform act).events := by
  cases act with
  | next number =>
      rw [perform]
      cases history.cursors[number]? with
      | none => exact List.prefix_rfl
      | some cursor => exact List.prefix_append _ _
  | clone handle | take handle | collect handle | look handle =>
      rw [perform]
      cases history.handles[handle]? with
      | none => exact List.prefix_rfl
      | some stream => exact List.prefix_append _ _

theorem events_performAll (history : History) (acts : List Act) :
    history.events <+: (history.performAll acts).events := by
  induction acts generalizing history with
  | nil => exact List.prefix_rfl
  | cons act acts ih => exact (history.events_perform act).trans (ih (history.perform act))

/-- Events that neither obtain the cursor nor pull leave the consumer as it was. -/
theorem Consumer.idle (consumer : Consumer source files guarded history)
    (events : next.events = history.events ++ [event]) (cursors : next.cursors = history.cursors)
    (obtainsNothing : event.obtains = false)
    (pullsNothing : ∀ number outcome, event ≠ .advanced number outcome) :
    Consumer source files guarded next := by
  have handsOutNothing : event.items = [] := by
    cases event with
    | cloned => rfl
    | took => rfl
    | looked => rfl
    | advanced number outcome => exact absurd rfl (pullsNothing number outcome)
    | collected pulled answer =>
        cases pulled with
        | none => rfl
        | some pulled => cases obtainsNothing
  have sameItems : next.items = history.items := by
    rw [items_concat events, handsOutNothing, List.append_nil]
  have sameConsumed : next.consumed = history.consumed := by
    simp [consumed, events, obtainsNothing]
  have old : ∀ {other}, other ∈ history.events → other ∈ next.events := fun member => by
    rw [events]
    exact List.mem_append_left _ member
  have advancedOld : ∀ {number outcome}, .advanced number outcome ∈ next.events →
      .advanced number outcome ∈ history.events := by
    intro number outcome member
    rw [events, List.mem_append, List.mem_singleton] at member
    exact member.resolve_right fun isNew => pullsNothing number outcome isNew.symm
  have collectedOld : ∀ {pulled answer}, .collected (some pulled) answer ∈ next.events →
      .collected (some pulled) answer ∈ history.events := by
    intro pulled answer member
    rw [events, List.mem_append, List.mem_singleton] at member
    refine member.resolve_right ?_
    rintro rfl
    cases obtainsNothing
  cases consumer with
  | nobody unconsumed noCursor noItem noPull =>
      exact .nobody (sameConsumed.trans unconsumed) (cursors.trans noCursor)
        (sameItems.trans noItem) fun _ _ member => noPull _ _ (advancedOld member)
  | holder took holds position onlyHolder noCollection =>
      exact .holder (old took) (cursors.trans holds) (sameItems ▸ position)
        (fun _ _ member => onlyHolder _ _ (advancedOld member))
        fun _ _ member => noCollection _ _ (collectedOld member)
  | collector collected noCursor isPulled gathered position ends noPull onlyCollection =>
      exact .collector (old collected) (cursors.trans noCursor) (sameItems.trans isPulled) gathered
        position ends (fun _ _ member => noPull _ _ (advancedOld member))
        fun _ _ member => onlyCollection _ _ (collectedOld member)

/-- A history of a stream over a feed. -/
structure Consistent (feed : Feed) (guarded : Bool) (files : Files) (stream : RecordStream)
    (history : History) : Prop where
  handles : ∀ handle ∈ history.handles, handle = stream
  sameFiles : history.host.files = files
  held : history.host.streams[stream.index]? =
    some (if history.consumed then none else some ⟨feed, guarded, false⟩)
  answered : Answered history.events
  consumer : Consumer (feed.supply files) files guarded history

end History

theorem takeStream_spec {host : Host} {stream : RecordStream} {held : Option Cursor}
    (isHeld : host.streams[stream.index]? = some held) :
    (host.takeStream stream).1 = held ∧
      (host.takeStream stream).2.streams[stream.index]? = some none ∧
      (host.takeStream stream).2.files = host.files := by
  refine ⟨congrArg Option.join isHeld, ?_, rfl⟩
  have inRange := (List.getElem?_eq_some_iff.mp isHeld).1
  exact List.getElem?_set_self inRange

theorem isConsumed_of_held {host : Host} {stream : RecordStream} {consumed : Bool} {cursor : Cursor}
    (isHeld : host.streams[stream.index]? = some (if consumed then none else some cursor)) :
    host.isConsumed stream = consumed := by
  rw [Host.isConsumed, isHeld]
  cases consumed <;> rfl

namespace History.Consistent

variable {feed : Feed} {guarded : Bool} {files : Files} {stream : RecordStream}
  {history : History}

theorem opened (host : Host) (feed : Feed) (guarded : Bool) :
    Consistent feed guarded host.files ⟨host.streams.length⟩
      (.opened host ⟨feed, guarded, false⟩) where
  handles := fun _ => List.mem_singleton.mp
  sameFiles := rfl
  held := List.getElem?_concat_length
  answered := by
    intro before event after same
    cases before <;> cases same
  consumer := .nobody rfl rfl rfl fun _ _ => List.not_mem_nil

theorem of_idle {event : Event} (consistent : Consistent feed guarded files stream history)
    {next : History} (handles : ∀ handle ∈ next.handles, handle ∈ history.handles)
    (host : next.host.files = history.host.files ∧
      next.host.streams[stream.index]? = history.host.streams[stream.index]?)
    (events : next.events = history.events ++ [event]) (cursors : next.cursors = history.cursors)
    (obtainsNothing : event.obtains = false)
    (pullsNothing : ∀ number outcome, event ≠ .advanced number outcome)
    (early : history.consumed = false → event.Early)
    (late : history.consumed = true → event.Late) :
    Consistent feed guarded files stream next where
  handles handle member := consistent.handles handle (handles handle member)
  sameFiles := host.1.trans consistent.sameFiles
  held := by
    have sameConsumed : next.consumed = history.consumed := by
      simp [consumed, events, obtainsNothing]
    rw [host.2, sameConsumed]
    exact consistent.held
  answered := events ▸ consistent.answered.concat early late
  consumer := consistent.consumer.idle events cursors obtainsNothing pullsNothing

theorem of_obtaining {event : Event} (consistent : Consistent feed guarded files stream history)
    {next : History} (handles : next.handles = history.handles)
    (sameFiles : next.host.files = history.host.files)
    (emptied : next.host.streams[stream.index]? = some none)
    (events : next.events = history.events ++ [event]) (unconsumed : history.consumed = false)
    (obtains : event.obtains = true) (early : event.Early)
    (consumer : Consumer (feed.supply files) files guarded next) :
    Consistent feed guarded files stream next where
  handles := handles ▸ consistent.handles
  sameFiles := sameFiles.trans consistent.sameFiles
  held := by
    have nowConsumed : next.consumed = true := by simp [consumed, events, obtains]
    rw [emptied, nowConsumed]
    rfl
  answered := by
    rw [events]
    refine consistent.answered.concat (fun _ => early) fun isConsumed => ?_
    cases unconsumed.symm.trans isConsumed
  consumer := consumer

theorem unconsumed_cases (consistent : Consistent feed guarded files stream history)
    (unconsumed : history.consumed = false) :
    history.cursors = [] ∧ history.items = [] ∧
      (∀ number outcome, .advanced number outcome ∉ history.events) ∧
      ∀ pulled answer, .collected (some pulled) answer ∉ history.events := by
  cases consistent.consumer with
  | nobody _ noCursor noItem noPull =>
      refine ⟨noCursor, noItem, noPull, fun pulled answer collected => ?_⟩
      cases unconsumed.symm.trans (consumed_of_mem collected rfl)
  | holder took => cases unconsumed.symm.trans (consumed_of_mem took rfl)
  | collector collected => cases unconsumed.symm.trans (consumed_of_mem collected rfl)

theorem clone (consistent : Consistent feed guarded files stream history) (handle : Nat) :
    Consistent feed guarded files stream (history.perform (.clone handle)) := by
  rw [perform]
  cases found : history.handles[handle]? with
  | none => exact consistent
  | some known =>
      have member := List.mem_of_getElem? found
      refine consistent.of_idle ?_ ⟨rfl, rfl⟩ rfl rfl rfl (fun _ _ => Event.noConfusion)
        (fun _ => .cloned) (fun _ => .cloned)
      intro other isHandle
      rw [List.mem_append, List.mem_singleton] at isHandle
      cases isHandle with
      | inl old => exact old
      | inr same => exact same ▸ member

theorem look (consistent : Consistent feed guarded files stream history) (handle : Nat) :
    Consistent feed guarded files stream (history.perform (.look handle)) := by
  rw [perform]
  cases found : history.handles[handle]? with
  | none => exact consistent
  | some known =>
      obtain rfl := consistent.handles known (List.mem_of_getElem? found)
      have answer := isConsumed_of_held consistent.held
      refine consistent.of_idle (fun _ => id) ⟨rfl, rfl⟩ rfl rfl rfl
        (fun _ _ => Event.noConfusion) ?_ ?_
      · intro unconsumed
        rw [answer, unconsumed]
        exact .looked
      · intro consumed
        rw [answer, consumed]
        exact .looked

theorem take (consistent : Consistent feed guarded files stream history) (handle : Nat) :
    Consistent feed guarded files stream (history.perform (.take handle)) := by
  rw [perform]
  cases found : history.handles[handle]? with
  | none => exact consistent
  | some known =>
      obtain rfl := consistent.handles known (List.mem_of_getElem? found)
      have held := consistent.held
      obtain ⟨taken, emptied, sameFiles⟩ := takeStream_spec held
      dsimp only
      cases consumed : history.consumed with
      | true =>
          rw [consumed, if_pos rfl] at held taken
          rw [taken]
          refine consistent.of_idle (fun _ => id) ⟨sameFiles, emptied.trans held.symm⟩ rfl
            (List.append_nil _) rfl (fun _ _ => Event.noConfusion) ?_ (fun _ => .took)
          intro unconsumed
          cases consumed.symm.trans unconsumed
      | false =>
          rw [consumed, if_neg Bool.false_ne_true] at taken
          rw [taken]
          obtain ⟨noCursor, noItem, noPull, noCollection⟩ := consistent.unconsumed_cases consumed
          refine consistent.of_obtaining rfl sameFiles emptied rfl consumed rfl .took ?_
          refine .holder (by simp) (congrArg (· ++ _) noCursor) ?_ ?_ ?_
          · rw [items_concat rfl, noItem]
            exact .start feed files guarded false
          · intro number outcome member
            exact absurd (by simpa using member) (noPull number outcome)
          · intro pulled answer member
            exact noCollection pulled answer (by simpa using member)

theorem collect (consistent : Consistent feed guarded files stream history) (handle : Nat) :
    Consistent feed guarded files stream (history.perform (.collect handle)) := by
  rw [perform]
  cases found : history.handles[handle]? with
  | none => exact consistent
  | some known =>
      obtain rfl := consistent.handles known (List.mem_of_getElem? found)
      have held := consistent.held
      obtain ⟨taken, emptied, sameFiles⟩ := takeStream_spec held
      dsimp only
      cases consumed : history.consumed with
      | true =>
          rw [consumed, if_pos rfl] at held taken
          rw [Activity.collectRecords_of_taken [] taken, taken]
          refine consistent.of_idle (fun _ => id) ⟨sameFiles, emptied.trans held.symm⟩ rfl
            rfl rfl (fun _ _ => Event.noConfusion) ?_ (fun _ => .collected)
          intro unconsumed
          cases consumed.symm.trans unconsumed
      | false =>
          rw [consumed, if_neg Bool.false_ne_true] at taken
          obtain ⟨answer, gathered, collected⟩ := Activity.collectRecords_of_untaken [] taken
          rw [collected, taken]
          obtain ⟨noCursor, noItem, noPull, noCollection⟩ := consistent.unconsumed_cases consumed
          obtain ⟨streams, filesThen, ⟨last, position⟩, ends⟩ :=
            (history.host.takeStream known).2.pullToEnd_start feed guarded
          refine consistent.of_obtaining rfl (filesThen.trans sameFiles) (streams ▸ emptied) rfl
            consumed rfl (.collected _ _) ?_
          rw [← sameFiles.trans consistent.sameFiles]
          refine .collector (by simp) noCursor ?_ gathered position ends ?_ ?_
          · rw [items_concat rfl, noItem]
            rfl
          · intro number outcome member
            exact noPull number outcome (by simpa using member)
          · intro pulled' answer' member
            rw [List.mem_append, List.mem_singleton] at member
            cases member with
            | inl old => exact absurd old (noCollection pulled' answer')
            | inr new =>
                cases new
                exact ⟨rfl, rfl⟩

theorem next (consistent : Consistent feed guarded files stream history) (number : Nat) :
    Consistent feed guarded files stream (history.perform (.next number)) := by
  rw [perform]
  cases found : history.cursors[number]? with
  | none => exact consistent
  | some cursor =>
      dsimp only
      cases consistent.consumer with
      | nobody _ noCursor =>
          rw [noCursor] at found
          cases found
      | collector _ noCursor =>
          rw [noCursor] at found
          cases found
      | @holder held took holds position onlyHolder noCollection =>
          obtain ⟨rfl, rfl⟩ : number = 0 ∧ held = cursor := by
            rw [holds] at found
            cases number with
            | zero => exact ⟨rfl, Option.some.inj found⟩
            | succ number => cases found
          have consumed : history.consumed = true := consumed_of_mem took rfl
          obtain ⟨moves, sameStreams, sameFiles⟩ := history.host.pull_spec held
          rw [consistent.sameFiles] at moves
          exact {
            handles := consistent.handles
            sameFiles := sameFiles.trans consistent.sameFiles
            held := by
              have stillConsumed : (history.events ++ [Event.advanced 0
                  (history.host.pull held).1.1]).any Event.obtains = true := by
                rw [List.any_append, ← History.consumed, consumed]
                rfl
              rw [sameStreams, consistent.held, consumed]
              exact congrArg (fun isConsumed => some (if isConsumed = true then none else _))
                stillConsumed.symm
            answered := by
              refine consistent.answered.concat (fun unconsumed => ?_) fun _ => .advanced 0 _
              cases consumed.symm.trans unconsumed
            consumer := by
              refine .holder (List.mem_append_left _ took)
                (congrArg (·.set 0 (history.host.pull held).1.2) holds) ?_ ?_ ?_
              · rw [items_concat rfl]
                exact position.pulled moves
              · intro number outcome member
                rw [List.mem_append, List.mem_singleton] at member
                cases member with
                | inl old => exact onlyHolder number outcome old
                | inr new =>
                    cases new
                    rfl
              · intro pulled answer member
                exact noCollection pulled answer (by simpa using member) }

theorem perform (consistent : Consistent feed guarded files stream history) (act : Act) :
    Consistent feed guarded files stream (history.perform act) := by
  cases act with
  | clone handle => exact consistent.clone handle
  | take handle => exact consistent.take handle
  | collect handle => exact consistent.collect handle
  | look handle => exact consistent.look handle
  | next number => exact consistent.next number

theorem performAll (consistent : Consistent feed guarded files stream history)
    (acts : List Act) : Consistent feed guarded files stream (history.performAll acts) := by
  induction acts generalizing history with
  | nil => exact consistent
  | cons act acts ih => exact ih (consistent.perform act)

theorem isConsumed_eq (consistent : Consistent feed guarded files stream history)
    {handle : RecordStream} (known : handle ∈ history.handles) :
    history.host.isConsumed handle = history.consumed := by
  obtain rfl := consistent.handles handle known
  exact isConsumed_of_held consistent.held

end History.Consistent

/-- Whatever is done with a stream under its handles, at most one take or collection obtains its
cursor; all that is asked before and after fits this, on every handle; a consumed stream stays
consumed; and the items that are handed out, to one consumer, are the first ones of the source in
their order. A collection that obtains the cursor answers with all records or with the first error. -/
theorem stream_single_consumer (host : Host) (feed : Feed) (guarded : Bool) (acts : List Act) :
    let source := feed.supply host.files
    let history := (History.opened host ⟨feed, guarded, false⟩).performAll acts
    history.events.countP Event.obtains ≤ 1 ∧
    (∀ before event after, history.events = before ++ event :: after →
      (before.any Event.obtains = false → event.Early) ∧
        (before.any Event.obtains = true → event.Late)) ∧
    (∀ handle ∈ history.handles, history.host.isConsumed handle = history.consumed) ∧
    (∀ more, history.consumed = true → (history.performAll more).consumed = true) ∧
    (source.Begins history.items ∨
      guarded = true ∧ ∃ front, source.Begins front ∧
        history.items = front ++ [.error (.cancelled none)]) ∧
    (∀ number outcome, .advanced number outcome ∈ history.events →
      number = 0 ∧ .took true ∈ history.events) ∧
    ∀ pulled answer, .collected (some pulled) answer ∈ history.events →
      history.items = pulled ∧
      ((∃ records : List Record, answer = .ok records ∧ source.Holds (records.map .ok)) ∨
        ∃ (records : List Record) (error : EngineError), answer = .error error ∧
          (source.Begins (records.map .ok ++ [.error error]) ∨
            guarded = true ∧ error = .cancelled none ∧ source.Begins (records.map .ok))) := by
  intro source history
  have consistent := (History.Consistent.opened host feed guarded).performAll acts
  refine ⟨consistent.answered.countP_le_one, consistent.answered, fun _ => consistent.isConsumed_eq,
    ?stays, ?items, ?holder, ?collection⟩
  case stays =>
    intro more consumed
    obtain ⟨event, member, obtains⟩ := List.any_eq_true.mp consumed
    exact History.consumed_of_mem ((history.events_performAll more).subset member) obtains
  case items =>
    cases consistent.consumer with
    | nobody _ _ noItem =>
        rw [noItem]
        exact .inl rfl
    | holder _ _ position => exact position.yielded_cases
    | collector _ _ isPulled _ position => exact isPulled ▸ position.yielded_cases
  case holder =>
    intro number outcome member
    cases consistent.consumer with
    | nobody _ _ _ noPull => exact absurd member (noPull number outcome)
    | holder took _ _ onlyHolder => exact ⟨onlyHolder number outcome member, took⟩
    | collector _ _ _ _ _ _ noPull => exact absurd member (noPull number outcome)
  case collection =>
    intro pulled answer member
    cases consistent.consumer with
    | nobody unconsumed => cases unconsumed.symm.trans (History.consumed_of_mem member rfl)
    | holder _ _ _ _ noCollection => exact absurd member (noCollection pulled answer)
    | collector _ _ isPulled gathered position ends _ onlyCollection =>
        obtain ⟨rfl, rfl⟩ := onlyCollection pulled answer member
        exact ⟨isPulled, gathered.answer_cases position ends⟩

end Stream

end RdfPipeline
