import RdfPipeline.Proofs.Operation.FileIndependence
import RdfPipeline.Proofs.Stream.Cursor
import RdfPipeline.Source.Input

/-!
# What sources deliver

A source that succeeds hands on a stream. While the files stay as they are and nobody asks to cancel,
its pulls yield the outcomes of the input one after the other, errors among them, and behind the last
one nothing for ever.
-/

set_option autoImplicit false

namespace RdfPipeline

open Files (Bytes)
open RdfPipeline.Stream (Cursor Feed Supply)

/-! ## Pulls in a row -/

namespace Host

/-- What so many pulls of a cursor yield. -/
def pulls : Nat → Host → Cursor → List (Option Outcome)
  | 0, _, _ => []
  | count + 1, host, cursor =>
      (host.pull cursor).1.1 :: pulls count (host.pull cursor).2 (host.pull cursor).1.2

variable {host after : Host}

theorem pulls_of_pull {cursor next : Cursor} {outcome : Option Outcome}
    (pulled : host.pull cursor = ((outcome, next), after)) (count : Nat) :
    host.pulls (count + 1) cursor = outcome :: after.pulls count next := by
  rw [pulls, pulled]

theorem pulls_ended (host : Host) (feed : Feed) (count : Nat) :
    host.pulls count ⟨feed, true, true⟩ = List.replicate count none := by
  induction count with
  | zero => rfl
  | succ count ih => exact congrArg (none :: ·) ih

theorem pull_watching_of_end {feed : Feed} (holds : feed.supply host.files = .ofOutcomes [])
    (quiet : host.cancellation.Quiet) :
    ∃ last after, host.pull (.watching feed) = ((none, ⟨last, true, true⟩), after) := by
  obtain ⟨cancellation, -, polled⟩ := quiet.poll
  unfold pull Cursor.pull
  simp only [Cursor.watching, polled, Cursor.advance, holds]
  exact ⟨_, _, rfl⟩

theorem pull_watching_of_outcome {feed : Feed} {outcome : Outcome} {rest : List Outcome}
    (holds : feed.supply host.files = .ofOutcomes (outcome :: rest))
    (quiet : host.cancellation.Quiet) :
    ∃ cancellation, cancellation.Quiet ∧
      host.pull (.watching feed) =
        ((some outcome, .watching (.ready (.ofOutcomes rest))), { host with cancellation }) := by
  obtain ⟨cancellation, stillQuiet, polled⟩ := quiet.poll
  refine ⟨cancellation, stillQuiet, ?_⟩
  unfold pull Cursor.pull
  simp only [Cursor.watching, polled, Cursor.advance, holds]
  rfl

/-- While nobody asks to cancel, a watching cursor yields all of its source and then nothing. -/
theorem pulls_watching {outcomes : List Outcome} {feed : Feed}
    (holds : feed.supply host.files = .ofOutcomes outcomes) (quiet : host.cancellation.Quiet)
    (count : Nat) :
    host.pulls (outcomes.length + count) (.watching feed) =
      outcomes.map some ++ List.replicate count none := by
  induction outcomes generalizing host feed with
  | nil =>
      rw [List.length_nil, Nat.zero_add]
      cases count with
      | zero => rfl
      | succ count =>
          obtain ⟨last, after, pulled⟩ := pull_watching_of_end holds quiet
          rw [pulls_of_pull pulled, pulls_ended]
          rfl
  | cons outcome rest ih =>
      obtain ⟨cancellation, stillQuiet, pulled⟩ := pull_watching_of_outcome holds quiet
      have further := @ih { host with cancellation } (.ready (.ofOutcomes rest)) rfl stillQuiet
      rw [List.length_cons, Nat.add_right_comm, pulls_of_pull pulled, further]
      rfl

end Host

namespace Source

/-! ## Inputs -/

/-- The input of an invocation has these bytes: those of a file, or else of the text that is given. -/
inductive Provides (context : OperationContext) (files : Files) : Bytes → Prop where
  | file {path : String} {contents : Bytes} :
      context.nonBlankText? "filePath" = some path → files.read path = .ok contents →
      Provides context files contents
  | inline {text : String} :
      context.nonBlankText? "filePath" = none → context.text? "content" = some text →
      Provides context files (Files.encodeText text)

theorem checkReadable_of_read {files : Files} {path : String} {contents : Bytes}
    (read : files.read path = .ok contents) : files.checkReadable path = .ok () := by
  unfold Files.read at read
  unfold Files.checkReadable
  cases resolved : files.resolve path with
  | error fault =>
      rw [resolved] at read
      cases read
  | ok place =>
      rw [resolved] at read
      simp only [bind, Except.bind] at read ⊢
      cases found : files.entryAt? place with
      | some entry => rfl
      | none =>
          rw [found] at read
          cases read

theorem Input.feed_supply (input : Input) (decode : Except Files.Fault Bytes → Supply)
    (files : Files) : (input.feed decode).supply files = decode (input.read files) := by
  cases input <;> rfl

theorem Provides.openInput_eq {context : OperationContext} {session : Session} {contents : Bytes}
    (provides : Provides context session.host.files contents) (operation : String) :
    ∃ input, openInput operation context session = (.ok input, session) ∧
      input.read session.host.files = .ok contents := by
  unfold openInput
  cases provides with
  | @file path _ named read =>
      rw [named]
      have looks : Activity.host session = (.ok session.host, session) := rfl
      refine ⟨.file path, (Activity.bind_of_ok looks _).trans ?_, read⟩
      rw [checkReadable_of_read read]
      rfl
  | @inline text unnamed given =>
      rw [unnamed, given]
      exact ⟨.inline text, rfl, rfl⟩

/-! ## Deliveries -/

/-- A run succeeds with a stream that nobody has taken. While the files stay as they are and nobody
asks to cancel, the stream yields these outcomes and then nothing for ever. -/
def Delivers (activity : Activity OperationResult) (session : Session)
    (outcomes : List Outcome) : Prop :=
  ∃ result stream cursor after, activity session = (.ok result, after) ∧ result.success = true ∧
    result.outputStream = some stream ∧ (after.host.takeStream stream).1 = some cursor ∧
    ∀ host : Host, host.files = session.host.files → host.cancellation.Quiet → ∀ count,
      host.pulls (outcomes.length + count) cursor = outcomes.map some ++ List.replicate count none

section Deliveries

variable {α : Type} {activity : Activity OperationResult} {session : Session}
  {outcomes : List Outcome}

theorem delivers_streamResult {feed : Feed}
    (holds : feed.supply session.host.files = .ofOutcomes outcomes) :
    Delivers (streamResult feed) session outcomes := by
  refine ⟨_, _, .watching feed, _, rfl, rfl, rfl, ?_, ?_⟩
  · simp [Host.takeStream]
  · intro host sameFiles quiet count
    rw [← sameFiles] at holds
    exact Host.pulls_watching holds quiet count

theorem Delivers.after {first : Activity α} {value : α} {next : α → Activity OperationResult}
    (ends : first session = (.ok value, session)) (delivers : Delivers (next value) session outcomes) :
    Delivers (first >>= next) session outcomes := by
  unfold Delivers
  rw [Activity.bind_of_ok ends]
  exact delivers

theorem Delivers.withMetadata (delivers : Delivers activity session outcomes) (name : String)
    (value : Value) :
    Delivers (activity >>= fun result => return result.withMetadata name value) session outcomes := by
  obtain ⟨result, stream, cursor, after, ends, success, handsOn, untaken, yields⟩ := delivers
  exact ⟨result.withMetadata name value, stream, cursor, after, Activity.bind_of_ok ends _, success,
    handsOn, untaken, yields⟩

end Deliveries

/-- A session in which nothing has happened, without files. -/
def freshSession : Session :=
  ⟨.initial .empty .never, []⟩

end Source

end RdfPipeline
