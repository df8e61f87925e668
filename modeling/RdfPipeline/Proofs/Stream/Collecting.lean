import RdfPipeline.Proofs.Operation.FileIndependence
import RdfPipeline.Proofs.Stream.Cursor

/-!
# Collecting

Whoever collects a stream pulls its cursor up to the end or to the first error, and answers with all
records or with that error.
-/

set_option autoImplicit false

namespace RdfPipeline

open RdfPipeline.Stream (Cursor Feed Supply Position)

/-- What pulls up to the end or the first error yield, at most so many of them, and the host then. -/
def Host.pullToEnd : Nat → Host → Cursor → List Outcome × Host
  | 0, host, _ => ([], host)
  | pulls + 1, host, cursor =>
      match host.pull cursor with
      | ((none, _), host) => ([], host)
      | ((some (.error error), _), host) => ([.error error], host)
      | ((some (.ok record), cursor), host) =>
          let (outcomes, host) := host.pullToEnd pulls cursor
          (.ok record :: outcomes, host)

/-- The answer to a collection that has pulled these items. -/
inductive Gathered : List Outcome → Except EngineError (List Record) → Prop where
  | records (records : List Record) : Gathered (records.map .ok) (.ok records)
  | error (records : List Record) (error : EngineError) :
      Gathered (records.map .ok ++ [.error error]) (.error error)

theorem Gathered.cons {outcomes : List Outcome} {answer : Except EngineError (List Record)}
    (gathered : Gathered outcomes answer) (record : Record) :
    Gathered (.ok record :: outcomes) (answer.map (record :: ·)) := by
  cases gathered with
  | records records => exact .records (record :: records)
  | error records error => exact .error (record :: records) error

namespace Activity

/-- Collecting is pulling up to the end or the first error. -/
theorem forEachWithin_collect (pulls : Nat) (host : Host) (cursor : Cursor)
    (records : List Record) (notices : List Notice) :
    ∃ answer, Gathered (host.pullToEnd pulls cursor).1 answer ∧
      forEachWithin (fun outcome records => do return records ++ [← outcome]) pulls cursor records
          ⟨host, notices⟩ =
        (answer.map (records ++ ·), ⟨(host.pullToEnd pulls cursor).2, notices⟩) := by
  induction pulls generalizing host cursor records with
  | zero =>
      refine ⟨.ok [], .records [], ?_⟩
      simp only [Except.map, List.append_nil]
      rfl
  | succ pulls ih =>
      rw [Host.pullToEnd, forEachWithin]
      cases pulled : host.pull cursor with
      | mk yielded host' =>
        obtain ⟨outcome, cursor'⟩ := yielded
        have ends : pull cursor ⟨host, notices⟩ = (.ok (outcome, cursor'), ⟨host', notices⟩) :=
          withHost_eq pulled
        rw [bind_of_ok ends]
        cases outcome with
        | none =>
            refine ⟨.ok [], .records [], ?_⟩
            simp only [Except.map, List.append_nil]
            rfl
        | some outcome =>
            cases outcome with
            | error error => exact ⟨.error error, .error [] error, rfl⟩
            | ok record =>
                obtain ⟨answer, gathered, collected⟩ := ih host' cursor' (records ++ [record])
                refine ⟨answer.map (record :: ·), gathered.cons record, ?_⟩
                have consumed : (do return records ++ [← (Except.ok record : Outcome)] :
                    Activity (List Record)) ⟨host', notices⟩ =
                    (.ok (records ++ [record]), ⟨host', notices⟩) := rfl
                refine (bind_of_ok consumed _).trans (collected.trans ?_)
                cases answer with
                | error error => rfl
                | ok more => simp [Except.map]

theorem collectRecords_of_taken {stream : RecordStream} {host : Host} (notices : List Notice)
    (taken : (host.takeStream stream).1 = none) :
    collectRecords stream ⟨host, notices⟩ =
      (.ok [], ⟨(host.takeStream stream).2, notices⟩) := by
  have ends : takeStream stream ⟨host, notices⟩ =
      (.ok none, ⟨(host.takeStream stream).2, notices⟩) := withHost_eq (Prod.ext taken rfl)
  exact bind_of_ok ends _

theorem collectRecords_of_untaken {stream : RecordStream} {host : Host} {cursor : Cursor}
    (notices : List Notice) (untaken : (host.takeStream stream).1 = some cursor) :
    let start := (host.takeStream stream).2
    let pulled := start.pullToEnd (cursor.pullBound start.files) cursor
    ∃ answer, Gathered pulled.1 answer ∧
      collectRecords stream ⟨host, notices⟩ = (answer, ⟨pulled.2, notices⟩) := by
  intro start pulled
  have ends : takeStream stream ⟨host, notices⟩ = (.ok (some cursor), ⟨start, notices⟩) :=
    withHost_eq (Prod.ext untaken rfl)
  obtain ⟨answer, gathered, collected⟩ :=
    forEachWithin_collect (cursor.pullBound start.files) start cursor [] notices
  refine ⟨answer, gathered, (bind_of_ok ends _).trans (collected.trans ?_)⟩
  cases answer <;> rfl

end Activity

/-- Pulls up to the end go through all of the source, or up to its first error, or up to an error by
which the cursor itself ends. -/
theorem Host.pullToEnd_spec {pulls : Nat} (host : Host) (cursor : Cursor)
    (enough : (cursor.feed.supply host.files).ahead.length < pulls) (fresh : cursor.ended = false)
    {source : Supply} {yielded : List Outcome}
    (position : Position source host.files cursor.guarded yielded cursor) :
    (host.pullToEnd pulls cursor).2.streams = host.streams ∧
    (host.pullToEnd pulls cursor).2.files = host.files ∧
    (∃ last, Position source host.files cursor.guarded
      (yielded ++ (host.pullToEnd pulls cursor).1) last) ∧
    ((∃ error, .error error ∈ (host.pullToEnd pulls cursor).1) ∨
      source.Holds (yielded ++ (host.pullToEnd pulls cursor).1)) := by
  induction pulls generalizing host cursor yielded with
  | zero => cases enough
  | succ pulls ih =>
      obtain ⟨moves, sameStreams, sameFiles⟩ := host.pull_spec cursor
      rw [pullToEnd]
      cases pulled : host.pull cursor with
      | mk result host' =>
        obtain ⟨outcome, cursor'⟩ := result
        rw [pulled] at moves sameStreams sameFiles
        dsimp only at moves sameStreams sameFiles
        have next := position.pulled moves
        cases outcome with
        | none =>
            refine ⟨sameStreams, sameFiles, ⟨cursor', next⟩, .inr ?_⟩
            rw [List.append_nil]
            exact position.holds fresh (moves.of_none fresh)
        | some outcome =>
            cases outcome with
            | error error => exact ⟨sameStreams, sameFiles, ⟨cursor', next⟩, .inl ⟨error, by simp⟩⟩
            | ok record =>
                obtain ⟨item, rest, found, isRecord, rfl⟩ := moves.of_record
                have shorter := Supply.length_of_next?_record found isRecord
                rw [← sameFiles] at next ⊢
                obtain ⟨streams, files, reached, ends⟩ :=
                  ih host' { cursor with feed := .ready rest }
                    (Nat.lt_of_lt_of_le shorter (Nat.le_of_lt_succ enough)) fresh next
                simp only [Option.toList_some, List.append_assoc, List.singleton_append]
                  at reached ends
                refine ⟨streams.trans sameStreams, files, reached, ?_⟩
                cases ends with
                | inl failed =>
                    obtain ⟨error, member⟩ := failed
                    exact .inl ⟨error, .tail _ member⟩
                | inr holds => exact .inr holds

theorem Host.pullToEnd_start (host : Host) (feed : Feed) (guarded : Bool) :
    let cursor : Cursor := ⟨feed, guarded, false⟩
    let result := host.pullToEnd (cursor.pullBound host.files) cursor
    result.2.streams = host.streams ∧ result.2.files = host.files ∧
      (∃ last, Position (feed.supply host.files) host.files guarded result.1 last) ∧
      ((∃ error, .error error ∈ result.1) ∨ (feed.supply host.files).Holds result.1) :=
  pullToEnd_spec host ⟨feed, guarded, false⟩ (Nat.lt_succ_of_lt (Nat.lt_succ_self _)) rfl
    (.start feed host.files guarded false)

/-- A collection answers with all records of its source or with the first error. -/
theorem Gathered.answer_cases {source : Supply} {files : Files} {guarded : Bool}
    {pulled : List Outcome} {answer : Except EngineError (List Record)} {last : Cursor}
    (gathered : Gathered pulled answer) (position : Position source files guarded pulled last)
    (ends : (∃ error, .error error ∈ pulled) ∨ source.Holds pulled) :
    (∃ records : List Record, answer = .ok records ∧ source.Holds (records.map .ok)) ∨
      ∃ (records : List Record) (error : EngineError), answer = .error error ∧
        (source.Begins (records.map .ok ++ [.error error]) ∨
          guarded = true ∧ error = .cancelled none ∧ source.Begins (records.map .ok)) := by
  cases gathered with
  | records records =>
      refine .inl ⟨records, rfl, ends.resolve_left ?_⟩
      simp
  | error records error =>
      refine .inr ⟨records, error, rfl, ?_⟩
      cases position.yielded_cases with
      | inl begins => exact .inl begins
      | inr interrupted =>
          obtain ⟨watching, front, begins, same⟩ := interrupted
          obtain ⟨rfl, isCancelled⟩ := List.append_inj' same rfl
          cases isCancelled
          exact .inr ⟨watching, rfl, begins⟩

end RdfPipeline
