import Mathlib.Data.List.Basic
import RdfPipeline.Proofs.Stream.Cursor

/-!
# Interrupted streams

A guard in front of an iterator hands its items on, errors among them, until it comes to the end or
finds a request to cancel. A request is answered by one error; from then on, and from the end on,
there is nothing any more, and the iterator is left alone. A cursor that watches for cancellation is
such a guard in front of its feed.
-/

set_option autoImplicit false

namespace RdfPipeline.Stream

variable {σ γ : Type}

/-! ## Guards -/

/-- A guard in front of an iterator, which stands somewhere. An iterator need not come to an end,
and after an end it may yield again. -/
structure Guard (σ : Type) where
  inner : σ
  ended : Bool

namespace Guard

/-- The error that answers a request. -/
def interruption : Outcome :=
  .error (.cancelled none)

/-- What comes next, the guard behind it and the cancellation after it. -/
def pull (next : σ → Option Item × σ) (cancellation : Cancellation) (guard : Guard σ) :
    Option Outcome × Guard σ × Cancellation :=
  if guard.ended then (none, guard, cancellation)
  else
    match cancellation.poll with
    | (true, cancellation) => (some interruption, ⟨guard.inner, true⟩, cancellation)
    | (false, cancellation) =>
        match next guard.inner with
        | (none, inner) => (none, ⟨inner, true⟩, cancellation)
        | (some item, inner) =>
            (some item.outcome, ⟨inner, false⟩,
              if item.cancels then cancellation.request else cancellation)

section Pull

variable (next : σ → Option Item × σ) {cancellation : Cancellation} {inner : σ}

theorem pull_of_ended (cancellation : Cancellation) (inner : σ) :
    pull next cancellation ⟨inner, true⟩ = (none, ⟨inner, true⟩, cancellation) :=
  rfl

theorem pull_of_requested (requested : cancellation.poll.1 = true) :
    pull next cancellation ⟨inner, false⟩ =
      (some interruption, ⟨inner, true⟩, cancellation.poll.2) := by
  have polled : cancellation.poll = (true, cancellation.poll.2) := Prod.ext requested rfl
  rw [pull, polled]
  rfl

theorem pull_of_end (unrequested : cancellation.poll.1 = false) (ended : (next inner).1 = none) :
    pull next cancellation ⟨inner, false⟩ =
      (none, ⟨(next inner).2, true⟩, cancellation.poll.2) := by
  have polled : cancellation.poll = (false, cancellation.poll.2) := Prod.ext unrequested rfl
  have yielded : next inner = (none, (next inner).2) := Prod.ext ended rfl
  rw [pull, polled, yielded]
  rfl

theorem pull_of_item (unrequested : cancellation.poll.1 = false) {item : Item}
    (found : (next inner).1 = some item) :
    pull next cancellation ⟨inner, false⟩ =
      (some item.outcome, ⟨(next inner).2, false⟩,
        if item.cancels then cancellation.poll.2.request else cancellation.poll.2) := by
  have polled : cancellation.poll = (false, cancellation.poll.2) := Prod.ext unrequested rfl
  have yielded : next inner = (some item, (next inner).2) := Prod.ext found rfl
  rw [pull, polled, yielded]
  rfl

end Pull

/-- The watching cursor that a guard in front of a feed is. -/
def cursor (guard : Guard Feed) : Cursor :=
  ⟨guard.inner, true, guard.ended⟩

end Guard

/-- A feed as an iterator. -/
def Feed.next (files : Files) (feed : Feed) : Option Item × Feed :=
  match (feed.supply files).next? with
  | none => (none, .ready (feed.supply files))
  | some (item, rest) => (some item, .ready rest)

theorem Guard.pull_cursor (files : Files) (cancellation : Cancellation) (guard : Guard Feed) :
    guard.cursor.pull files cancellation =
      ((guard.pull (Feed.next files) cancellation).1,
        (guard.pull (Feed.next files) cancellation).2.1.cursor,
        (guard.pull (Feed.next files) cancellation).2.2) := by
  obtain ⟨feed, ended⟩ := guard
  cases ended with
  | true => rfl
  | false =>
      unfold Cursor.pull Guard.pull
      simp only [cursor, if_true, Bool.false_eq_true, if_false]
      cases cancellation.poll with
      | mk requested polled =>
        cases requested with
        | true => rfl
        | false =>
            dsimp only
            unfold Cursor.advance Feed.next
            cases (feed.supply files).next? with
            | none => rfl
            | some found => rfl

/-! ## Iterators -/

/-- The first items of an iterator, fewer if it comes to an end before. -/
def itemsOf (next : σ → Option Item × σ) : Nat → σ → List Item
  | 0, _ => []
  | count + 1, position =>
      match next position with
      | (none, _) => []
      | (some item, position) => item :: itemsOf next count position

/-- Where an iterator stands once it has been pulled so many times. -/
def positionAfter (next : σ → Option Item × σ) : Nat → σ → σ
  | 0, position => position
  | count + 1, position => positionAfter next count (next position).2

section Iterators

variable (next : σ → Option Item × σ)

theorem positionAfter_succ (count : Nat) (start : σ) :
    positionAfter next (count + 1) start = (next (positionAfter next count start)).2 := by
  induction count generalizing start with
  | zero => rfl
  | succ count ih => exact ih (next start).2

theorem itemsOf_of_end {start : σ} (ended : (next start).1 = none) (count : Nat) :
    itemsOf next count start = [] := by
  cases count with
  | zero => rfl
  | succ count =>
      have yielded : next start = (none, (next start).2) := Prod.ext ended rfl
      rw [itemsOf, yielded]

theorem itemsOf_of_item {start : σ} {item : Item} (found : (next start).1 = some item)
    (count : Nat) :
    itemsOf next (count + 1) start = item :: itemsOf next count (next start).2 := by
  have yielded : next start = (some item, (next start).2) := Prod.ext found rfl
  rw [itemsOf, yielded]

theorem itemsOf_succ {count : Nat} {start : σ} (whole : (itemsOf next count start).length = count) :
    itemsOf next (count + 1) start =
      itemsOf next count start ++ (next (positionAfter next count start)).1.toList := by
  induction count generalizing start with
  | zero =>
      rw [positionAfter]
      cases yielded : (next start).1 with
      | none => exact itemsOf_of_end next yielded 1
      | some item => exact itemsOf_of_item next yielded 0
  | succ count ih =>
      cases yielded : (next start).1 with
      | none =>
          rw [itemsOf_of_end next yielded] at whole
          cases whole
      | some item =>
          rw [itemsOf_of_item next yielded] at whole
          rw [itemsOf_of_item next yielded, itemsOf_of_item next yielded, positionAfter,
            ih (Nat.succ.inj whole), List.cons_append]

/-- Behind its first end an iterator has no more items. -/
theorem itemsOf_beyond_end {count : Nat} {start : σ}
    (whole : (itemsOf next count start).length = count)
    (ended : (next (positionAfter next count start)).1 = none) (more : Nat) :
    itemsOf next (count + more) start = itemsOf next count start := by
  induction count generalizing start with
  | zero => exact itemsOf_of_end next ended _
  | succ count ih =>
      cases yielded : (next start).1 with
      | none =>
          rw [itemsOf_of_end next yielded] at whole
          cases whole
      | some item =>
          rw [itemsOf_of_item next yielded] at whole
          rw [Nat.add_right_comm, itemsOf_of_item next yielded, itemsOf_of_item next yielded,
            ih (Nat.succ.inj whole) ended]

end Iterators

theorem itemsOf_feed (files : Files) (count : Nat) (feed : Feed) :
    (itemsOf (Feed.next files) count feed).map Item.outcome = (feed.supply files).first count := by
  induction count generalizing feed with
  | zero => rfl
  | succ count ih =>
      rw [itemsOf, Feed.next]
      cases found : (feed.supply files).next? with
      | none => exact (Supply.first_of_end found _).symm
      | some yielded =>
          obtain ⟨item, rest⟩ := yielded
          rw [Supply.first_of_next? found]
          exact congrArg _ (ih (.ready rest))

/-! ## Schedules -/

/-- What happens next: somebody pulls, or somebody asks to cancel. -/
inductive Turn where
  | pull
  | cancel
  deriving DecidableEq

structure Answer where
  /-- Whether a request was there when somebody pulled. -/
  requested : Bool
  outcome : Option Outcome

/-- How far a schedule has come, with the answers to all pulls so far. -/
structure Course (γ : Type) where
  source : γ
  cancellation : Cancellation
  answers : List Answer

namespace Course

def start (source : γ) (cancellation : Cancellation) : Course γ :=
  ⟨source, cancellation, []⟩

def turn (pull : Cancellation → γ → Option Outcome × γ × Cancellation) (course : Course γ) :
    Turn → Course γ
  | .pull =>
      let (outcome, source, cancellation) := pull course.cancellation course.source
      ⟨source, cancellation, course.answers ++ [⟨course.cancellation.poll.1, outcome⟩]⟩
  | .cancel => { course with cancellation := course.cancellation.request }

theorem turn_pull (pull : Cancellation → γ → Option Outcome × γ × Cancellation)
    (course : Course γ) {outcome : Option Outcome} {source : γ} {cancellation : Cancellation}
    (pulled : pull course.cancellation course.source = (outcome, source, cancellation)) :
    course.turn pull .pull = ⟨source, cancellation,
      course.answers ++ [⟨course.cancellation.poll.1, outcome⟩]⟩ := by
  rw [turn, pulled]

def run (pull : Cancellation → γ → Option Outcome × γ × Cancellation) (course : Course γ)
    (turns : List Turn) : Course γ :=
  turns.foldl (turn pull) course

/-- How many pulls came while no request was there. -/
def undisturbed (course : Course γ) : Nat :=
  course.answers.countP (!·.requested)

end Course

/-! ## The stages of a guard -/

/-- The answer that hands on an item. -/
def Item.answer (item : Item) : Answer :=
  ⟨false, some item.outcome⟩

/-- Where a guard stands: along the items of its iterator, at an end of its own behind them, or at
the end of the iterator. -/
inductive Stage (next : σ → Option Item × σ) (start : σ) (course : Course (Guard σ)) : Prop where
  | along (count : Nat) :
      (itemsOf next count start).length = count →
      course.source = ⟨positionAfter next count start, false⟩ →
      course.answers = (itemsOf next count start).map Item.answer →
      Stage next start course
  | interrupted (count idle : Nat) :
      (itemsOf next count start).length = count →
      course.cancellation.poll.1 = true →
      course.source = ⟨positionAfter next count start, true⟩ →
      course.answers = (itemsOf next count start).map Item.answer ++
        ⟨true, some Guard.interruption⟩ :: List.replicate idle ⟨true, none⟩ →
      Stage next start course
  | exhausted (count early late : Nat) :
      (itemsOf next count start).length = count →
      (next (positionAfter next count start)).1 = none →
      (late ≠ 0 → course.cancellation.poll.1 = true) →
      course.source = ⟨positionAfter next (count + 1) start, true⟩ →
      course.answers = (itemsOf next count start).map Item.answer ++
        (List.replicate (early + 1) ⟨false, none⟩ ++ List.replicate late ⟨true, none⟩) →
      Stage next start course

namespace Stage

variable {next : σ → Option Item × σ} {start : σ} {course : Course (Guard σ)}

theorem begin (next : σ → Option Item × σ) (start : σ) (cancellation : Cancellation) :
    Stage next start (.start ⟨start, false⟩ cancellation) :=
  .along 0 rfl rfl rfl

theorem cancel (stage : Stage next start course) :
    Stage next start (course.turn (Guard.pull next) .cancel) := by
  have requested : course.cancellation.request.poll.1 = true := Cancellation.poll_of_requested rfl
  cases stage with
  | along count whole stands answered => exact .along count whole stands answered
  | interrupted count idle whole _ stands answered =>
      exact .interrupted count idle whole requested stands answered
  | exhausted count early late whole ended _ stands answered =>
      exact .exhausted count early late whole ended (fun _ => requested) stands answered

/-- Along the items a guard is interrupted, comes to the end, or hands on the next item. -/
theorem pull_along {count : Nat} (whole : (itemsOf next count start).length = count)
    (cancellation : Cancellation) :
    Stage next start (Course.turn (Guard.pull next)
      ⟨⟨positionAfter next count start, false⟩, cancellation,
        (itemsOf next count start).map Item.answer⟩ .pull) := by
  cases requested : cancellation.poll.1 with
  | true =>
      rw [Course.turn_pull _ _ (Guard.pull_of_requested next requested), requested]
      exact .interrupted count 0 whole (Cancellation.poll_poll requested) rfl rfl
  | false =>
      cases yielded : (next (positionAfter next count start)).1 with
      | none =>
          rw [Course.turn_pull _ _ (Guard.pull_of_end next requested yielded), requested,
            ← positionAfter_succ]
          exact .exhausted count 0 0 whole yielded (absurd rfl) rfl rfl
      | some item =>
          have further : itemsOf next (count + 1) start = itemsOf next count start ++ [item] := by
            rw [itemsOf_succ next whole, yielded]
            rfl
          rw [Course.turn_pull _ _ (Guard.pull_of_item next requested yielded), requested,
            ← positionAfter_succ]
          refine .along (count + 1) ?_ rfl ?_
          · rw [further, List.length_append, whole]
            rfl
          · rw [further, List.map_append]
            rfl

theorem pull (stage : Stage next start course) :
    Stage next start (course.turn (Guard.pull next) .pull) := by
  obtain ⟨source, cancellation, answers⟩ := course
  cases stage with
  | along count whole stands answered =>
      obtain rfl : source = _ := stands
      obtain rfl : answers = _ := answered
      exact pull_along whole cancellation
  | interrupted count idle whole requested stands answered =>
      obtain rfl : source = _ := stands
      obtain rfl : answers = _ := answered
      have requested : cancellation.poll.1 = true := requested
      rw [Course.turn_pull _ _ (Guard.pull_of_ended next _ _), requested]
      refine .interrupted count (idle + 1) whole requested rfl ?_
      rw [List.append_assoc, List.cons_append, ← List.replicate_succ']
  | exhausted count early late whole ended requested stands answered =>
      obtain rfl : source = _ := stands
      obtain rfl : answers = _ := answered
      rw [Course.turn_pull _ _ (Guard.pull_of_ended next _ _)]
      cases found : cancellation.poll.1 with
      | true =>
          refine .exhausted count early (late + 1) whole ended (fun _ => found) rfl ?_
          rw [List.append_assoc, List.append_assoc, ← List.replicate_succ']
      | false =>
          -- No pull can have found a request before, as a request stays.
          obtain rfl : late = 0 := Decidable.not_not.mp fun some => by
            cases found.symm.trans (requested some)
          refine .exhausted count (early + 1) 0 whole ended (absurd rfl) rfl ?_
          rw [List.replicate_zero, List.append_nil, List.append_nil, List.append_assoc,
            ← List.replicate_succ']

theorem run (stage : Stage next start course) (turns : List Turn) :
    Stage next start (course.run (Guard.pull next) turns) := by
  induction turns generalizing course with
  | nil => exact stage
  | cons turn turns ih =>
      cases turn with
      | pull => exact ih stage.pull
      | cancel => exact ih stage.cancel

end Stage

/-! ## What a guard answers -/

/-- The error of a guard, if it was pulled after a request and before the end of its iterator. -/
def interruptions (delivered undisturbed pulls : Nat) : List (Option Outcome) :=
  if delivered = undisturbed ∧ undisturbed < pulls then [some Guard.interruption] else []

/-- All pulls that come before a request hand on the next item, up to the end of the iterator. The
first one after it is answered by the error of the guard, unless the end has been seen. -/
structure CutCleanly (next : σ → Option Item × σ) (start : σ) (course : Course (Guard σ)) : Prop where
  outcomes :
    let items := itemsOf next course.undisturbed start
    let cut := interruptions items.length course.undisturbed course.answers.length
    course.answers.map (·.outcome) = items.map (fun item => some item.outcome) ++ cut ++
      List.replicate (course.answers.length - items.length - cut.length) none
  requests : course.answers.map (·.requested) =
    List.replicate course.undisturbed false ++
      List.replicate (course.answers.length - course.undisturbed) true
  inner : course.source.inner =
    positionAfter next (min course.undisturbed
      ((itemsOf next course.undisturbed start).length + 1)) start

namespace Stage

variable {next : σ → Option Item × σ} {start : σ} {course : Course (Guard σ)}

theorem countP_answers (items : List Item) :
    (items.map Item.answer).countP (!·.requested) = items.length := by
  rw [List.countP_map]
  exact List.countP_eq_length.mpr fun item _ => rfl

theorem requested_answer (items : List Item) :
    items.map ((·.requested) ∘ Item.answer) = List.replicate items.length false :=
  List.map_const'

theorem cutCleanly (stage : Stage next start course) : CutCleanly next start course := by
  cases stage with
  | along count whole stands answered =>
      have undisturbed : course.undisturbed = count := by
        rw [Course.undisturbed, answered, countP_answers, whole]
      refine ⟨?_, ?_, ?_⟩
      · simp [answered, undisturbed, whole, interruptions, Item.answer]
      · simp [answered, undisturbed, whole, requested_answer]
      · simp [stands, undisturbed, whole]
  | interrupted count idle whole requested stands answered =>
      have undisturbed : course.undisturbed = count := by
        rw [Course.undisturbed, answered, List.countP_append, countP_answers, whole]
        simp [List.countP_replicate]
      refine ⟨?_, ?_, ?_⟩
      · simp [answered, undisturbed, whole, interruptions, Item.answer]
      · simp [answered, undisturbed, whole, requested_answer, List.replicate_succ]
      · simp [stands, undisturbed, whole]
  | exhausted count early late whole ended requested stands answered =>
      have undisturbed : course.undisturbed = count + (early + 1) := by
        rw [Course.undisturbed, answered, List.countP_append, countP_answers, whole]
        simp [List.countP_replicate]
      have items := itemsOf_beyond_end next whole ended (early + 1)
      refine ⟨?_, ?_, ?_⟩
      · simp [answered, undisturbed, items, whole, interruptions, Item.answer]
      · simp [answered, undisturbed, whole, requested_answer, ← List.replicate_append_replicate]
        omega
      · simp [stands, undisturbed, items, whole]

end Stage

/-! ## After a request -/

/-- What may happen to a course once a request is there. -/
structure LeftAlone (course later : Course (Guard σ)) : Prop where
  requested : later.cancellation.poll.1 = true
  inner : later.source.inner = course.source.inner
  answers : ∃ more, later.answers = course.answers ++ more ∧
    ∀ answer ∈ more, answer.requested = true ∧
      (answer.outcome = none ∨ answer.outcome = some Guard.interruption)

namespace LeftAlone

variable {course later : Course (Guard σ)}

theorem cancel (pull : Cancellation → Guard σ → Option Outcome × Guard σ × Cancellation)
    (course : Course (Guard σ)) : LeftAlone course (course.turn pull .cancel) :=
  ⟨Cancellation.poll_of_requested rfl, rfl, [], (List.append_nil _).symm, nofun⟩

theorem turn (next : σ → Option Item × σ) (alone : LeftAlone course later) (turn : Turn) :
    LeftAlone course (later.turn (Guard.pull next) turn) := by
  obtain ⟨⟨position, ended⟩, cancellation, answers⟩ := later
  obtain ⟨requested, inner, more, answered, silent⟩ := alone
  have requested : cancellation.poll.1 = true := requested
  have answered : answers = course.answers ++ more := answered
  cases turn with
  | cancel => exact ⟨Cancellation.poll_of_requested rfl, inner, more, answered, silent⟩
  | pull =>
      cases ended with
      | true =>
          rw [Course.turn_pull _ _ (Guard.pull_of_ended next _ _), requested, answered,
            List.append_assoc]
          refine ⟨requested, inner, _, rfl, List.forall_mem_append.mpr ⟨silent, ?_⟩⟩
          exact List.forall_mem_singleton.mpr ⟨rfl, .inl rfl⟩
      | false =>
          rw [Course.turn_pull _ _ (Guard.pull_of_requested next requested), requested, answered,
            List.append_assoc]
          refine ⟨Cancellation.poll_poll requested, inner, _, rfl,
            List.forall_mem_append.mpr ⟨silent, ?_⟩⟩
          exact List.forall_mem_singleton.mpr ⟨rfl, .inr rfl⟩

theorem run (next : σ → Option Item × σ) (alone : LeftAlone course later) (turns : List Turn) :
    LeftAlone course (later.run (Guard.pull next) turns) := by
  induction turns generalizing later with
  | nil => exact alone
  | cons turn turns ih => exact ih (alone.turn next turn)

theorem undisturbed (alone : LeftAlone course later) : later.undisturbed = course.undisturbed := by
  obtain ⟨-, -, more, answered, silent⟩ := alone
  have none : more.countP (!·.requested) = 0 := by
    refine List.countP_eq_zero.mpr fun answer among => ?_
    rw [(silent answer among).1]
    exact Bool.false_ne_true
  rw [Course.undisturbed, answered, List.countP_append, none]
  rfl

end LeftAlone

/-! ## Requests from the schedule alone -/

/-- An iterator whose items bring no requests along. -/
def plain (next : σ → Option Outcome × σ) (position : σ) : Option Item × σ :=
  ((next position).1.map .of, (next position).2)

theorem Guard.pull_plain (next : σ → Option Outcome × σ) {cancellation : Cancellation}
    (quiet : cancellation.Quiet) (guard : Guard σ) :
    (guard.pull (plain next) cancellation).2.2.Quiet := by
  obtain ⟨inner, ended⟩ := guard
  obtain ⟨after, stillQuiet, polled⟩ := quiet.poll
  cases ended with
  | true => exact quiet
  | false =>
      unfold Guard.pull plain
      rw [polled]
      cases (next inner).1 with
      | none => exact stillQuiet
      | some outcome => exact stillQuiet

/-- Then the pulls before the request are the undisturbed ones. -/
theorem Course.undisturbed_run_plain (next : σ → Option Outcome × σ) {course : Course (Guard σ)}
    (quiet : course.cancellation.Quiet) (turns : List Turn) :
    (course.run (Guard.pull (plain next)) turns).undisturbed =
      course.undisturbed + (turns.takeWhile (· = .pull)).length := by
  induction turns generalizing course with
  | nil => rfl
  | cons turn turns ih =>
      cases turn with
      | cancel =>
          exact ((LeftAlone.cancel _ course).run (plain next) turns).undisturbed
      | pull =>
          obtain ⟨after, -, polled⟩ := quiet.poll
          have counted : (course.turn (Guard.pull (plain next)) .pull).undisturbed =
              course.undisturbed + 1 := by
            simp [Course.turn, Course.undisturbed, polled, List.countP_append]
          have further := @ih (course.turn (Guard.pull (plain next)) .pull)
            (Guard.pull_plain next quiet course.source)
          rw [counted] at further
          simp only [decide_true, List.takeWhile_cons_of_pos, List.length_cons]
          rw [Course.run, List.foldl_cons, ← Course.run, further]
          omega

/-! ## Cursors as guards -/

namespace Course

variable {δ : Type}

def map (view : γ → δ) (course : Course γ) : Course δ :=
  ⟨view course.source, course.cancellation, course.answers⟩

theorem run_map {pull : Cancellation → γ → Option Outcome × γ × Cancellation}
    {viewed : Cancellation → δ → Option Outcome × δ × Cancellation} {view : γ → δ}
    (agree : ∀ cancellation source, viewed cancellation (view source) =
      ((pull cancellation source).1, view (pull cancellation source).2.1,
        (pull cancellation source).2.2))
    (course : Course γ) (turns : List Turn) :
    (course.map view).run viewed turns = (course.run pull turns).map view := by
  induction turns generalizing course with
  | nil => rfl
  | cons turn turns ih =>
      have stepped : (course.map view).turn viewed turn = (course.turn pull turn).map view := by
        cases turn with
        | pull =>
            rw [turn_pull viewed (course.map view) (agree course.cancellation course.source)]
            rfl
        | cancel => rfl
      rw [run, List.foldl_cons, ← run, stepped, ih]
      rfl

end Course

/-- A watching cursor hands on the items of its feed up to the end or to the first pull behind a
request, which it answers by its one error; and then nothing. -/
theorem watching_cut_cleanly :
    (∀ files feed cancellation turns,
      (Course.start (Cursor.watching feed) cancellation).run
          (fun cancellation cursor => cursor.pull files cancellation) turns =
        ((Course.start ⟨feed, false⟩ cancellation).run
          (Guard.pull (Feed.next files)) turns).map Guard.cursor) ∧
    (∀ files feed count,
      (itemsOf (Feed.next files) count feed).map Item.outcome = (feed.supply files).first count) ∧
    (∀ {σ : Type} (next : σ → Option Item × σ) start cancellation turns,
      CutCleanly next start
        ((Course.start ⟨start, false⟩ cancellation).run (Guard.pull next) turns)) ∧
    (∀ {σ : Type} (next : σ → Option Item × σ) start cancellation before after,
      LeftAlone ((Course.start ⟨start, false⟩ cancellation).run (Guard.pull next) before)
        ((Course.start ⟨start, false⟩ cancellation).run (Guard.pull next)
          (before ++ .cancel :: after))) ∧
    ∀ {σ : Type} (next : σ → Option Outcome × σ) start turns,
      ((Course.start ⟨start, false⟩ .never).run (Guard.pull (plain next)) turns).undisturbed =
        (turns.takeWhile (· = .pull)).length := by
  refine ⟨?cursors, fun files feed count => itemsOf_feed files count feed, ?sequence, ?silence,
    ?schedule⟩
  case cursors =>
    intro files feed cancellation turns
    exact Course.run_map (Guard.pull_cursor files) (Course.start ⟨feed, false⟩ cancellation) turns
  case sequence =>
    intro σ next start cancellation turns
    exact ((Stage.begin next start cancellation).run turns).cutCleanly
  case silence =>
    intro σ next start cancellation before after
    rw [Course.run, Course.run, List.foldl_append]
    exact (LeftAlone.cancel _ _).run next after
  case schedule =>
    intro σ next start turns
    rw [Course.undisturbed_run_plain next ⟨rfl, rfl⟩ turns]
    exact Nat.zero_add _

end RdfPipeline.Stream
