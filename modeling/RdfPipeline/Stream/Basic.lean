import RdfPipeline.Error
import RdfPipeline.Files
import RdfPipeline.Value.Basic

/-!
# Record streams

Where records come from, one at a time and with errors between them, and the cursors that hand them
out. A cursor may watch for a request to cancel; once it has seen one, or the end, it stays at the
end.
-/

set_option autoImplicit false

namespace RdfPipeline

/-- What a pull yields: a record, or an error in its place. -/
abbrev Outcome := Except EngineError Record

/-- A request to stop, and how often it has been looked for. -/
structure Cancellation where
  requested : Bool
  polls : Nat
  /-- The poll that finds a request from outside, if one comes. -/
  due : Option Nat
  deriving DecidableEq, Repr

namespace Cancellation

/-- No request, now or later. -/
def never : Cancellation := ⟨false, 0, none⟩

def request (cancellation : Cancellation) : Cancellation :=
  { cancellation with requested := true }

/-- Looks whether a request is there. Once found it stays. -/
def poll (cancellation : Cancellation) : Bool × Cancellation :=
  let requested := cancellation.requested || cancellation.due.any (· ≤ cancellation.polls)
  (requested, { cancellation with requested, polls := cancellation.polls + 1 })

end Cancellation

namespace Stream

/-- One thing that a source yields. -/
structure Item where
  outcome : Outcome
  /-- Whether a request to cancel comes along with it. -/
  cancels : Bool

/-- A plain item. -/
def Item.of (outcome : Outcome) : Item := ⟨outcome, false⟩

/-- Items ahead, and the error that is yielded for ever after them, if there is one. -/
structure Supply where
  ahead : List Item
  forever : Option EngineError

namespace Supply

def ofOutcomes (outcomes : List Outcome) : Supply :=
  ⟨outcomes.map Item.of, none⟩

def ofError (error : EngineError) : Supply :=
  ⟨[], some error⟩

def next? (supply : Supply) : Option (Item × Supply) :=
  match supply.ahead with
  | item :: rest => some (item, { supply with ahead := rest })
  | [] => supply.forever.map fun error => (.of (.error error), supply)

end Supply

inductive Feed where
  | ready (supply : Supply)
  /-- A file that is read when the first item is asked for. -/
  | unread (path : String) (decode : Except Files.Fault Files.Bytes → Supply)

def Feed.supply (files : Files) : Feed → Supply
  | .ready supply => supply
  | .unread path decode => decode (files.read path)

structure Cursor where
  feed : Feed
  /-- Whether cancellation is looked for before each item. -/
  guarded : Bool
  /-- Whether a guarded cursor has come to its end. -/
  ended : Bool

namespace Cursor

def plain (feed : Feed) : Cursor := ⟨feed, false, false⟩

def watching (feed : Feed) : Cursor := ⟨feed, true, false⟩

/-- The next item whatever the request to cancel. -/
def advance (files : Files) (cancellation : Cancellation) (cursor : Cursor) :
    Option Outcome × Cursor × Cancellation :=
  match (cursor.feed.supply files).next? with
  | none => (none, ⟨.ready (cursor.feed.supply files), cursor.guarded, true⟩, cancellation)
  | some (item, supply) =>
      (some item.outcome, { cursor with feed := .ready supply },
        if item.cancels then cancellation.request else cancellation)

/-- What comes next, the cursor behind it and the cancellation after it. -/
def pull (files : Files) (cancellation : Cancellation) (cursor : Cursor) :
    Option Outcome × Cursor × Cancellation :=
  if cursor.guarded then
    if cursor.ended then (none, cursor, cancellation)
    else
      match cancellation.poll with
      | (true, cancellation) =>
          (some (.error (.cancelled none)), { cursor with ended := true }, cancellation)
      | (false, cancellation) => cursor.advance files cancellation
  else cursor.advance files cancellation

/-- Enough pulls to come to the end, or to an error that is yielded for ever. -/
def pullBound (files : Files) (cursor : Cursor) : Nat :=
  (cursor.feed.supply files).ahead.length + 2

end Cursor

end Stream

end RdfPipeline
