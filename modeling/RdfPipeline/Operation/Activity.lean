import RdfPipeline.Decimal.Binary64
import RdfPipeline.Rdf.Document
import RdfPipeline.Stream.Basic

/-!
# Activities

What operations may do while they run: draw on the streams, files and fresh names of a host, look
for a request to cancel, tell of their progress, and fail.
-/

set_option autoImplicit false

namespace RdfPipeline

inductive LogLevel where
  | debug
  | info
  | warn
  | error
  deriving DecidableEq, Repr

def LogLevel.toText : LogLevel → String
  | .debug => "DEBUG"
  | .info => "INFO"
  | .warn => "WARN"
  | .error => "ERROR"

inductive Notice where
  /-- Items done so far, and of how many if that is known. -/
  | progress (processed : Nat) (total : Option Nat)
  | log (level : LogLevel) (message : String)
  | metric (name : String) (value : Binary64)
  deriving DecidableEq

/-- A stream of the host. All copies of a handle stand for the same stream. -/
structure RecordStream where
  index : Nat
  deriving DecidableEq, Repr

structure Host where
  /-- The cursor of each stream until it is taken. -/
  streams : List (Option Stream.Cursor)
  cancellation : Cancellation
  files : Files
  /-- The number of the next fresh blank node. -/
  freshNodes : Nat
  /-- The number of the next graph object. -/
  freshGraphs : Nat

namespace Host

def initial (files : Files) (cancellation : Cancellation) : Host :=
  ⟨[], cancellation, files, 0, 0⟩

def openStream (host : Host) (cursor : Stream.Cursor) : RecordStream × Host :=
  (⟨host.streams.length⟩, { host with streams := host.streams ++ [some cursor] })

/-- The cursor of a stream, which nobody gets a second time. -/
def takeStream (host : Host) (stream : RecordStream) : Option Stream.Cursor × Host :=
  ((host.streams[stream.index]?).join,
    { host with streams := host.streams.set stream.index none })

def isConsumed (host : Host) (stream : RecordStream) : Bool :=
  (host.streams[stream.index]?).join.isNone

def pull (host : Host) (cursor : Stream.Cursor) : (Option Outcome × Stream.Cursor) × Host :=
  let (outcome, cursor, cancellation) := cursor.pull host.files host.cancellation
  ((outcome, cursor), { host with cancellation })

/-- Looks whether there is a request to cancel. -/
def poll (host : Host) : Bool × Host :=
  let (requested, cancellation) := host.cancellation.poll
  (requested, { host with cancellation })

def shareGraph (host : Host) (graph : Rdf.Graph) : Rdf.SharedGraph × Host :=
  (⟨host.freshGraphs, graph⟩, { host with freshGraphs := host.freshGraphs + 1 })

/-- The union of graphs. It takes a number of its own only if there are several. -/
def mergeGraphs (host : Host) (graphs : List Rdf.SharedGraph) : Option Rdf.SharedGraph × Host :=
  (Rdf.merge host.freshGraphs graphs,
    if 1 < graphs.length then { host with freshGraphs := host.freshGraphs + 1 } else host)

end Host

/-- The host and the notices that have been given, in their order. -/
structure Session where
  host : Host
  notices : List Notice

/-- A computation that uses a session and may fail. What it did before it failed stays done. -/
abbrev Activity (α : Type) : Type := ExceptT EngineError (StateM Session) α

namespace Activity

variable {α σ : Type}

def withHost (step : Host → α × Host) : Activity α :=
  fun session =>
    let (result, host) := step session.host
    (.ok result, { session with host })

def host : Activity Host :=
  withHost fun host => (host, host)

def tell (notice : Notice) : Activity Unit :=
  fun session => (.ok (), { session with notices := session.notices ++ [notice] })

def log (level : LogLevel) (message : String) : Activity Unit :=
  tell (.log level message)

def countMetric (name : String) (count : Nat) : Activity Unit :=
  tell (.metric name (Binary64.ofInt count))

/-! ## Cancellation -/

def cancel : Activity Unit :=
  withHost fun host => ((), { host with cancellation := host.cancellation.request })

def isCancelled : Activity Bool :=
  withHost Host.poll

/-- Fails if a request to cancel is there. -/
def checkCancelled : Activity Unit := do
  if ← isCancelled then throw (.cancelled none)

/-! ## Streams -/

def openStream (cursor : Stream.Cursor) : Activity RecordStream :=
  withHost fun host => host.openStream cursor

def takeStream (stream : RecordStream) : Activity (Option Stream.Cursor) :=
  withHost fun host => host.takeStream stream

def pull (cursor : Stream.Cursor) : Activity (Option Outcome × Stream.Cursor) :=
  withHost fun host => host.pull cursor

/-- Offers what a cursor yields to a consumer, for at most so many pulls. -/
def forEachWithin (consume : Outcome → σ → Activity σ) : Nat → Stream.Cursor → σ → Activity σ
  | 0, _, state => pure state
  | pulls + 1, cursor, state => do
      match ← pull cursor with
      | (none, _) => pure state
      | (some outcome, cursor) => forEachWithin consume pulls cursor (← consume outcome state)

/-- Offers what a cursor yields, item by item, to a consumer that fails at errors. -/
def forEach (consume : Outcome → σ → Activity σ) (cursor : Stream.Cursor) (state : σ) :
    Activity σ := do
  let host ← host
  forEachWithin consume (cursor.pullBound host.files) cursor state

/-- The records of a cursor up to its end; the first error among them is the failure. -/
def drain (cursor : Stream.Cursor) : Activity (List Record) :=
  forEach (fun outcome records => do return records ++ [← outcome]) cursor []

/-- All records of a stream, none if it has been taken. -/
def collectRecords (stream : RecordStream) : Activity (List Record) := do
  match ← takeStream stream with
  | some cursor => drain cursor
  | none => return []

/-! ## Graphs and files -/

def shareGraph (graph : Rdf.Graph) : Activity Rdf.SharedGraph :=
  withHost fun host => host.shareGraph graph

/-- Runs a reader that takes fresh blank nodes from a supply. -/
def withFreshNodes (read : Nat → Except EngineError (α × Nat)) : Activity α :=
  fun session =>
    match read session.host.freshNodes with
    | .ok (result, freshNodes) =>
        (.ok result, { session with host := { session.host with freshNodes } })
    | .error error => (.error error, session)

def changeFiles (change : Files → Except Files.Fault Files) : Activity Unit :=
  fun session =>
    match change session.host.files with
    | .ok files => (.ok (), { session with host := { session.host with files } })
    | .error fault => (.error (.io fault.message), session)

end Activity

end RdfPipeline
