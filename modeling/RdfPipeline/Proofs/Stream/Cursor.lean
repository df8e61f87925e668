import RdfPipeline.Operation.Activity

/-!
# Cursors

What a cursor yields, pull after pull: the items of its source in their order, and at most one error
of its own, by which a watching cursor ends early.
-/

set_option autoImplicit false

namespace RdfPipeline

/-! ## Requests -/

/-- No request to cancel is there or to come. -/
structure Cancellation.Quiet (cancellation : Cancellation) : Prop where
  unrequested : cancellation.requested = false
  undue : cancellation.due = none

theorem Cancellation.Quiet.poll {cancellation : Cancellation} (quiet : cancellation.Quiet) :
    ∃ after, after.Quiet ∧ cancellation.poll = (false, after) := by
  have unrequested : cancellation.poll.1 = false := by
    simp [Cancellation.poll, quiet.unrequested, quiet.undue]
  exact ⟨cancellation.poll.2, ⟨unrequested, quiet.undue⟩, Prod.ext unrequested rfl⟩

theorem Cancellation.poll_of_requested {cancellation : Cancellation}
    (requested : cancellation.requested = true) : cancellation.poll.1 = true := by
  rw [Cancellation.poll, requested]
  rfl

theorem Cancellation.poll_poll {cancellation : Cancellation}
    (requested : cancellation.poll.1 = true) : cancellation.poll.2.poll.1 = true :=
  poll_of_requested requested

namespace Stream

/-! ## The items of a source -/

namespace Supply

variable {supply rest : Supply} {item : Item}

/-- The first items of a supply, fewer if it comes to its end before. -/
def first (supply : Supply) (count : Nat) : List Outcome :=
  let forever := (supply.forever.map fun error => List.replicate count (.error error)).getD []
  (supply.ahead.map Item.outcome ++ forever).take count

/-- These are the first items of the supply. -/
def Begins (supply : Supply) (outcomes : List Outcome) : Prop :=
  supply.first outcomes.length = outcomes

/-- The supply yields these items and no more. -/
structure Holds (supply : Supply) (outcomes : List Outcome) : Prop where
  ahead : supply.ahead.map Item.outcome = outcomes
  finite : supply.forever = none

theorem first_zero (supply : Supply) : supply.first 0 = [] :=
  rfl

theorem first_of_next? (found : supply.next? = some (item, rest)) (count : Nat) :
    supply.first (count + 1) = item.outcome :: rest.first count := by
  obtain ⟨ahead, forever⟩ := supply
  cases ahead with
  | cons next ahead =>
      cases found
      cases forever with
      | none => simp [first]
      | some error =>
          simp only [first, Option.map_some, Option.getD_some, List.map_cons, List.cons_append,
            List.take_succ_cons, List.take_append, List.take_replicate]
          congr 3
          omega
  | nil =>
      cases forever with
      | none => cases found
      | some error =>
          cases found
          simp [first, Item.of, List.replicate_succ]

theorem first_of_end (ended : supply.next? = none) (count : Nat) : supply.first count = [] := by
  obtain ⟨ahead, forever⟩ := supply
  cases ahead with
  | cons next ahead => cases ended
  | nil =>
      cases forever with
      | none => simp [first]
      | some error => cases ended

/-- Only errors come for ever, so that a record makes the supply shorter. -/
theorem length_of_next?_record {record : Record} (found : supply.next? = some (item, rest))
    (isRecord : item.outcome = .ok record) : rest.ahead.length < supply.ahead.length := by
  obtain ⟨ahead, forever⟩ := supply
  cases ahead with
  | cons next ahead =>
      cases found
      exact Nat.lt_succ_self _
  | nil =>
      cases forever with
      | none => cases found
      | some error =>
          cases found
          cases isRecord

theorem holds_of_first {outcomes : List Outcome}
    (exhausted : ∀ count, supply.first (outcomes.length + count) = outcomes) :
    supply.Holds outcomes := by
  obtain ⟨ahead, forever⟩ := supply
  cases forever with
  | some error =>
      have longer := congrArg List.length (exhausted 1)
      simp [first] at longer
  | none =>
      have whole := exhausted ahead.length
      rw [first, List.take_of_length_le] at whole
      · exact ⟨by simpa using whole, rfl⟩
      · simp

end Supply

/-! ## One pull -/

namespace Cursor

/-- All that one pull can come to. -/
inductive Pulled (files : Files) (cursor : Cursor) : Option Outcome → Cursor → Prop where
  | item {item : Item} {rest : Supply} :
      (cursor.feed.supply files).next? = some (item, rest) →
      ¬(cursor.guarded = true ∧ cursor.ended = true) →
      Pulled files cursor (some item.outcome) { cursor with feed := .ready rest }
  | finished :
      (cursor.feed.supply files).next? = none →
      Pulled files cursor none ⟨.ready (cursor.feed.supply files), cursor.guarded, true⟩
  | interrupted :
      cursor.guarded = true → cursor.ended = false →
      Pulled files cursor (some (.error (.cancelled none))) { cursor with ended := true }
  | closed :
      cursor.guarded = true → cursor.ended = true → Pulled files cursor none cursor

theorem Pulled.of_record {files : Files} {cursor cursor' : Cursor} {record : Record}
    (pulled : cursor.Pulled files (some (.ok record)) cursor') :
    ∃ item rest, (cursor.feed.supply files).next? = some (item, rest) ∧
      item.outcome = .ok record ∧ cursor' = { cursor with feed := .ready rest } := by
  generalize isRecord : some (Except.ok record) = outcome at pulled
  cases pulled with
  | item found => exact ⟨_, _, found, (Option.some.inj isRecord).symm, rfl⟩
  | finished => cases isRecord
  | interrupted => cases isRecord
  | closed => cases isRecord

theorem Pulled.of_none {files : Files} {cursor cursor' : Cursor} (fresh : cursor.ended = false)
    (pulled : cursor.Pulled files none cursor') : (cursor.feed.supply files).next? = none := by
  generalize isNone : none = outcome at pulled
  cases pulled with
  | item => cases isNone
  | finished ended => exact ended
  | interrupted => cases isNone
  | closed _ ended => cases fresh.symm.trans ended

theorem advance_pulled (files : Files) (cancellation : Cancellation) {cursor : Cursor}
    (goesOn : ¬(cursor.guarded = true ∧ cursor.ended = true)) :
    cursor.Pulled files (cursor.advance files cancellation).1
      (cursor.advance files cancellation).2.1 := by
  unfold advance
  split
  next ended => exact .finished ended
  next found => exact .item found goesOn

theorem pull_pulled (files : Files) (cancellation : Cancellation) (cursor : Cursor) :
    cursor.Pulled files (cursor.pull files cancellation).1
      (cursor.pull files cancellation).2.1 := by
  unfold pull
  split
  next guarded =>
    split
    next ended => exact .closed guarded ended
    next notEnded =>
      split
      next => exact .interrupted guarded (eq_false_of_ne_true notEnded)
      next => exact advance_pulled files _ fun closed => notEnded closed.2
  next unguarded => exact advance_pulled files _ fun closed => unguarded closed.1

end Cursor

/-! ## Pulls in a row -/

/-- Where a cursor stands in its source once it has yielded these items: behind them, or at its end
behind an error of its own. -/
inductive Position (source : Supply) (files : Files) (guarded : Bool) :
    List Outcome → Cursor → Prop where
  | along {yielded : List Outcome} {cursor : Cursor} :
      cursor.guarded = guarded →
      (∀ count, source.first (yielded.length + count) =
        yielded ++ (cursor.feed.supply files).first count) →
      Position source files guarded yielded cursor
  | interrupted {front : List Outcome} {cursor : Cursor} :
      cursor.guarded = guarded → guarded = true → cursor.ended = true → source.Begins front →
      Position source files guarded (front ++ [.error (.cancelled none)]) cursor

namespace Position

variable {source : Supply} {files : Files} {guarded : Bool} {yielded : List Outcome}
  {cursor cursor' : Cursor}

theorem start (feed : Feed) (files : Files) (guarded ended : Bool) :
    Position (feed.supply files) files guarded [] ⟨feed, guarded, ended⟩ :=
  .along rfl fun count => congrArg _ (Nat.zero_add count)

theorem begins_of_along {rest : Supply} (ahead : ∀ count,
    source.first (yielded.length + count) = yielded ++ rest.first count) :
    source.Begins yielded := by
  have soFar := ahead 0
  rw [Supply.first_zero, List.append_nil] at soFar
  exact soFar

theorem pulled (position : Position source files guarded yielded cursor) {outcome : Option Outcome}
    (pulled : cursor.Pulled files outcome cursor') :
    Position source files guarded (yielded ++ outcome.toList) cursor' := by
  cases position with
  | along watches ahead =>
      cases pulled with
      | @item item rest found =>
          refine .along watches fun count => ?_
          have next := ahead (count + 1)
          rw [Supply.first_of_next? found] at next
          rw [List.length_append, Option.toList_some, List.length_singleton, Nat.add_assoc,
            Nat.add_comm 1, next, List.append_assoc]
          rfl
      | finished =>
          rw [Option.toList_none, List.append_nil]
          exact .along watches ahead
      | interrupted watching =>
          exact .interrupted watches (watches ▸ watching) rfl (begins_of_along ahead)
      | closed =>
          rw [Option.toList_none, List.append_nil]
          exact .along watches ahead
  | interrupted watches watching ended begins =>
      cases pulled with
      | item _ goesOn => exact absurd ⟨watches.trans watching, ended⟩ goesOn
      | finished =>
          rw [Option.toList_none, List.append_nil]
          exact .interrupted watches watching rfl begins
      | interrupted _ notEnded => cases ended.symm.trans notEnded
      | closed =>
          rw [Option.toList_none, List.append_nil]
          exact .interrupted watches watching ended begins

/-- A cursor that has not ended by itself has yielded all of its source once nothing is ahead. -/
theorem holds (position : Position source files guarded yielded cursor)
    (fresh : cursor.ended = false) (ended : (cursor.feed.supply files).next? = none) :
    source.Holds yielded := by
  cases position with
  | along _ ahead =>
      apply Supply.holds_of_first
      intro count
      rw [ahead, Supply.first_of_end ended, List.append_nil]
  | interrupted _ _ closed _ => cases fresh.symm.trans closed

/-- What a cursor has yielded are the first items of its source, but for one error of its own. -/
theorem yielded_cases (position : Position source files guarded yielded cursor) :
    source.Begins yielded ∨
      guarded = true ∧ ∃ front, source.Begins front ∧
        yielded = front ++ [.error (.cancelled none)] := by
  cases position with
  | along _ ahead => exact .inl (begins_of_along ahead)
  | interrupted _ watching _ begins => exact .inr ⟨watching, _, begins, rfl⟩

end Position

end Stream

theorem Host.pull_spec (host : Host) (cursor : Stream.Cursor) :
    cursor.Pulled host.files (host.pull cursor).1.1 (host.pull cursor).1.2 ∧
      (host.pull cursor).2.streams = host.streams ∧ (host.pull cursor).2.files = host.files :=
  ⟨cursor.pull_pulled host.files host.cancellation, rfl, rfl⟩

end RdfPipeline
