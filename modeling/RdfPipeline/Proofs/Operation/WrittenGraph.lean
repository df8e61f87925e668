import RdfPipeline.FileOutput
import RdfPipeline.Proofs.Files
import RdfPipeline.Proofs.Operation.FileIndependence
import RdfPipeline.Proofs.Rdf.RoundTrip

/-!
# Graphs in files

The output of a graph leaves a file that holds the text of the graph, and reports the number of its
triples.
-/

set_option autoImplicit false

namespace RdfPipeline

namespace Activity

variable {α β : Type}

theorem bind_eq_ok {first : Activity α} {next : α → Activity β} {session session' : Session}
    {result : β} (ran : (first >>= next) session = (.ok result, session')) :
    ∃ value middle, first session = (.ok value, middle) ∧
      next value middle = (.ok result, session') := by
  rcases bind_cases first next session with
    ⟨error, middle, -, stops⟩ | ⟨value, middle, ends, goesOn⟩
  · rw [stops] at ran
    cases ran
  · exact ⟨value, middle, ends, goesOn ▸ ran⟩

theorem changeFiles_eq_ok {change : Files → Except Files.Fault Files} {session session' : Session}
    {done : Unit} (ran : changeFiles change session = (.ok done, session')) :
    change session.host.files = .ok session'.host.files := by
  unfold changeFiles at ran
  split at ran
  next files changed =>
    cases ran
    exact changed
  next => cases ran

theorem liftExcept_eq_ok {outcome : Except EngineError α} {session session' : Session} {value : α}
    (ran : (liftExcept outcome : Activity α) session = (.ok value, session')) :
    outcome = .ok value ∧ session' = session := by
  cases outcome with
  | error error => cases ran
  | ok found =>
      cases ran
      exact ⟨rfl, rfl⟩

end Activity

namespace FileOutput

open Rdf (Graph Term parseDocument xsd)

theorem readText_of_writeGraph {path : String} {graph : Graph} {session session' : Session}
    {done : Unit} (ran : writeGraph path graph session = (.ok done, session')) :
    session'.host.files.readText path = .ok graph.toNTriples := by
  unfold writeGraph at ran
  obtain ⟨_, middle, -, written⟩ := Activity.bind_eq_ok ran
  have read := Files.read_of_write (Activity.changeFiles_eq_ok written)
  rw [Files.readText, read]
  exact Files.decodeText_encodeText graph.toNTriples

/-- What a successful output leaves behind. -/
structure Written (context : OperationContext) (graph : Graph) (result : OperationResult)
    (session : Session) : Prop where
  text : ∃ path, context.requireText id "filePath" = .ok path ∧
    session.host.files.readText path = .ok graph.toNTriples
  count : Dict.get? "triplesWritten" result.metadata = some (.ofCount graph.size)

theorem written_of_execute {context : OperationContext} {graph : Graph} {result : OperationResult}
    {session session' : Session} (received : requireGraph context = .ok graph)
    (ran : execute context session = (.ok result, session')) :
    Written context graph result session' := by
  unfold execute at ran
  obtain ⟨path, _, foundPath, afterPath⟩ := Activity.bind_eq_ok ran
  obtain ⟨required, rfl⟩ := Activity.liftExcept_eq_ok foundPath
  obtain ⟨given, _, foundGraph, afterGraph⟩ := Activity.bind_eq_ok afterPath
  obtain ⟨same, rfl⟩ := Activity.liftExcept_eq_ok foundGraph
  cases received.symm.trans same
  obtain ⟨_, _, wrote, afterWrite⟩ := Activity.bind_eq_ok afterGraph
  obtain ⟨_, _, logged, afterLog⟩ := Activity.bind_eq_ok afterWrite
  obtain ⟨_, _, counted, afterMetric⟩ := Activity.bind_eq_ok afterLog
  have text := readText_of_writeGraph wrote
  cases logged
  cases counted
  cases afterMetric
  constructor
  case text => exact ⟨path, required, text⟩
  case count =>
    simp only [OperationResult.withMetadata, Dict.get?_insert]
    rw [if_neg (by decide), if_pos trivial]

theorem readsBack_written {graph : Graph} (valid : graph.IsValid) (supply : Nat) :
    (graph.lines.length = graph.size ∧ graph.toNTriples.toList.count '\n' = graph.size) ∧
    (graph.IsLegible → ∃ parsed,
      parseDocument .nTriples supply graph.toNTriples = .ok (parsed, supply) ∧
        (∀ triple, triple ∈ parsed ↔ ∃ original ∈ graph, original.labelled = triple) ∧
        (graph.HasLabels → parsed = graph)) ∧
    (¬ graph.IsLegible →
      parseDocument .nTriples supply graph.toNTriples =
        .error (.rdfParse TextFormat.nTriples.complaint)) ∧
    (∀ context session result session', requireGraph context = .ok graph →
      execute context session = (.ok result, session') → Written context graph result session') :=
  ⟨⟨List.length_map _, Graph.count_lineEnd valid⟩,
    fun legible => Graph.parseDocument_of_legible valid legible supply,
    fun illegible => Graph.parseDocument_of_illegible valid illegible supply,
    fun _ _ _ _ received ran => written_of_execute received ran⟩

/-- Notes on a rose: a text with line ends and control characters, one with a language, a number. -/
def gardenNotes : Graph :=
  ⟨[⟨.iri ⟨"http://ex.org/rose?bed=1#old"⟩, ⟨"http://ex.org/note"⟩,
        .literal (.plain "say \"ok\" \\ then\r\n\t\x00\x08\x0c\x1f\x7f é😀")⟩,
      ⟨.blank (.named "b.1"), ⟨"http://ex.org/name"⟩, .literal (.tagged "Rose" "en-GB")⟩,
      ⟨.iri ⟨"urn:ex:rose"⟩, ⟨"http://ex.org/next"⟩, .blank (.named "b.1")⟩,
      ⟨.blank (.named "b.1"), ⟨"http://ex.org/height"⟩, .literal (.typed "90" (xsd "integer"))⟩],
    by decide +kernel⟩

theorem readsBack_written_gardenNotes :
    let context : OperationContext :=
      ⟨[("filePath", .text "notes/rose.nt")], none, some ⟨0, gardenNotes⟩, []⟩
    let session : Session := ⟨.initial .empty .never, []⟩
    (gardenNotes.IsValid ∧ gardenNotes.IsLegible ∧ gardenNotes.HasLabels) ∧
      gardenNotes.toNTriples.toList.count '\n' = 4 ∧
      parseDocument .nTriples 7 gardenNotes.toNTriples = .ok (gardenNotes, 7) ∧
      ∃ result session', execute context session = (.ok result, session') ∧
        session'.host.files.readText "notes/rose.nt" = .ok gardenNotes.toNTriples ∧
        Dict.get? "triplesWritten" result.metadata = some (.ofCount 4) := by
  intro context session
  have valid : gardenNotes.IsValid := by decide +kernel
  have legible : gardenNotes.IsLegible := by decide +kernel
  have labels : gardenNotes.HasLabels := by decide +kernel
  obtain ⟨⟨-, count⟩, readBack, -, left⟩ := readsBack_written valid 7
  obtain ⟨parsed, read, -, same⟩ := readBack legible
  rw [same labels] at read
  refine ⟨⟨valid, legible, labels⟩, count, read, ?_⟩
  have succeeds : (execute context session).1.toBool = true := by decide +kernel
  cases ran : execute context session with
  | mk outcome session' =>
      cases outcome with
      | error =>
          rw [ran] at succeeds
          cases succeeds
      | ok result =>
          have written := left context session result session' rfl ran
          obtain ⟨path, required, text⟩ := written.text
          cases required
          exact ⟨result, session', rfl, text, written.count⟩

/-- One statement about the object. -/
def mention (object : Term) : Graph :=
  ⟨[⟨.iri ⟨"http://a/s"⟩, ⟨"http://a/p"⟩, object⟩], by simp⟩

/-- Three valid graphs whose texts are refused: for a digit in a tag, for two dots side by side in a
label and for a colon in one. -/
theorem not_readsBack_mention :
    ((mention (.literal (.tagged "x" "es-419"))).IsValid ∧
      parseDocument .nTriples 0 (mention (.literal (.tagged "x" "es-419"))).toNTriples =
        .error (.rdfParse TextFormat.nTriples.complaint)) ∧
    ((mention (.blank (.named "a..b"))).IsValid ∧
      parseDocument .nTriples 0 (mention (.blank (.named "a..b"))).toNTriples =
        .error (.rdfParse TextFormat.nTriples.complaint)) ∧
    ((mention (.blank (.named "a:b"))).IsValid ∧
      parseDocument .nTriples 0 (mention (.blank (.named "a:b"))).toNTriples =
        .error (.rdfParse TextFormat.nTriples.complaint)) := by
  have refused {object : Term} (valid : (mention object).IsValid)
      (illegible : ¬ (mention object).IsLegible) :
      (mention object).IsValid ∧ parseDocument .nTriples 0 (mention object).toNTriples =
        .error (.rdfParse TextFormat.nTriples.complaint) :=
    ⟨valid, Graph.parseDocument_of_illegible valid illegible 0⟩
  refine ⟨refused ?_ ?_, refused ?_ ?_, refused ?_ ?_⟩
  all_goals decide +kernel

end FileOutput

end RdfPipeline
