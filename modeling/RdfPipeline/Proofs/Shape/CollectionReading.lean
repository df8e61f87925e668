import RdfPipeline.Proofs.Rdf.Collection
import RdfPipeline.Shape.Compile

/-!
# Collections by their triples

Where no node has two values of `rdf:first` or of `rdf:rest`, the triples alone decide what is read
from a head. The cells along `rdf:rest` lead to `rdf:nil`, to a node without one of the two values,
or back to one of them, and the reader tells these apart.
-/

set_option autoImplicit false

namespace RdfPipeline.Rdf

variable {graph : Graph}

/-! ## Cells -/

/-- No node has two values of `rdf:first` or of `rdf:rest`. -/
structure Graph.SingleCells (graph : Graph) : Prop where
  first : ∀ cell left right, graph.Links (rdf "first") cell left →
    graph.Links (rdf "first") cell right → left = right
  rest : ∀ cell left right, graph.Links (rdf "rest") cell left →
    graph.Links (rdf "rest") cell right → left = right

/-- Cells lead from one node to another along `rdf:rest`. None of them is `rdf:nil`, and the items
are their values of `rdf:first`, in order. -/
inductive Spans (graph : Graph) : Term → List Term → Term → Prop where
  | here {node : Term} : Spans graph node [] node
  | cell {current item next last : Term} {items : List Term} :
      current ≠ .iri (rdf "nil") → graph.Links (rdf "first") current item →
      graph.Links (rdf "rest") current next → Spans graph next items last →
      Spans graph current (item :: items) last

/-- Cells lead from the head to one from which further cells lead back to it. -/
def Loops (graph : Graph) (head : Term) : Prop :=
  ∃ before cell item around, Spans graph head before cell ∧
    Spans graph cell (item :: around) cell

/-- What comes of a node that is no cell, behind the cells with the items. -/
inductive Halts (graph : Graph) (items : List Term) :
    Term → Except CollectionFault (List Term) → Prop where
  | atEnd : Halts graph items (.iri (rdf "nil")) (.ok items)
  | withoutFirst {last : Term} :
      last ≠ .iri (rdf "nil") → (∀ item, ¬graph.Links (rdf "first") last item) →
      Halts graph items last (.error .missingFirst)
  | withoutRest {last item : Term} :
      last ≠ .iri (rdf "nil") → graph.Links (rdf "first") last item →
      (∀ next, ¬graph.Links (rdf "rest") last next) →
      Halts graph items last (.error .missingRest)

theorem Spans.append {start middle last : Term} {items more : List Term}
    (spans : Spans graph start items middle) (further : Spans graph middle more last) :
    Spans graph start (items ++ more) last := by
  induction spans with
  | here => exact further
  | cell notNil first rest _ ih => exact .cell notNil first rest (ih further)

theorem Loops.behind {current item next : Term} (notNil : current ≠ .iri (rdf "nil"))
    (first : graph.Links (rdf "first") current item)
    (rest : graph.Links (rdf "rest") current next) (loops : Loops graph next) :
    Loops graph current := by
  obtain ⟨before, cell, again, around, spans, loop⟩ := loops
  exact ⟨item :: before, cell, again, around, .cell notNil first rest spans, loop⟩

theorem Halts.behind {items : List Term} {last : Term}
    {outcome : Except CollectionFault (List Term)} (halts : Halts graph items last outcome)
    (item : Term) : Halts graph (item :: items) last (outcome.map (item :: ·)) := by
  cases halts with
  | atEnd => exact .atEnd
  | withoutFirst notNil without => exact .withoutFirst notNil without
  | withoutRest notNil first without => exact .withoutRest notNil first without

/-! ## Walks -/

/-- A walk comes to a node that is no cell, or back to a cell. -/
theorem Walks.halts_or_loops {visited : List Term} {current : Term}
    {outcome : Except CollectionFault (List Term)} (walks : Walks graph visited current outcome)
    (reached : ∀ cell ∈ visited, ∃ item items, Spans graph cell (item :: items) current) :
    (∃ items last, Spans graph current items last ∧ Halts graph items last outcome) ∨
      (Loops graph current ∧ outcome = .error .cycle) := by
  induction walks with
  | atEnd => exact .inl ⟨[], _, .here, .atEnd⟩
  | again _ known =>
      obtain ⟨item, items, loop⟩ := reached _ known
      exact .inr ⟨⟨[], _, item, items, .here, loop⟩, rfl⟩
  | withoutFirst notNil _ without =>
      exact .inl ⟨[], _, .here,
        .withoutFirst notNil fun _ => Graph.not_links_of_objectOf? without⟩
  | withoutRest notNil _ first without =>
      exact .inl ⟨[], _, .here, .withoutRest notNil (Graph.links_of_objectOf? first)
        fun _ => Graph.not_links_of_objectOf? without⟩
  | @cell visited current item next outcome notNil _ first rest _ ih =>
      have isFirst := Graph.links_of_objectOf? first
      have isRest := Graph.links_of_objectOf? rest
      have step : Spans graph current [item] next := .cell notNil isFirst isRest .here
      have reachedNext : ∀ cell ∈ current :: visited,
          ∃ item items, Spans graph cell (item :: items) next := by
        refine List.forall_mem_cons.mpr ⟨⟨item, [], step⟩, fun cell known => ?_⟩
        obtain ⟨item, items, spans⟩ := reached cell known
        exact ⟨item, _, spans.append step⟩
      rcases ih reachedNext with ⟨items, last, spans, halts⟩ | ⟨loops, rfl⟩
      · exact .inl ⟨item :: items, last, .cell notNil isFirst isRest spans, halts.behind item⟩
      · exact .inr ⟨loops.behind notNil isFirst isRest, rfl⟩

theorem readCollection_halts_or_loops (graph : Graph) (head : Term) :
    (∃ items last, Spans graph head items last ∧
      Halts graph items last (readCollection graph head)) ∨
      (Loops graph head ∧ readCollection graph head = .error .cycle) :=
  (walks_readCollection graph head).halts_or_loops (by simp)

/-! ## Ends of cells -/

/-- No cell is at the node. -/
def NoCell (graph : Graph) (node : Term) : Prop :=
  ∀ item items last, ¬Spans graph node (item :: items) last

theorem Halts.noCell {items : List Term} {last : Term}
    {outcome : Except CollectionFault (List Term)} (halts : Halts graph items last outcome) :
    NoCell graph last := by
  rintro item more other (_ | ⟨notNil, first, rest, -⟩)
  cases halts with
  | atEnd => exact notNil rfl
  | withoutFirst _ without => exact without _ first
  | withoutRest _ _ without => exact without _ rest

theorem NoCell.eq_of_spans {node other : Term} {items : List Term} (noCell : NoCell graph node)
    (spans : Spans graph node items other) : items = [] ∧ other = node := by
  cases spans with
  | here => exact ⟨rfl, rfl⟩
  | cell notNil first rest further =>
      exact absurd (.cell notNil first rest further) (noCell _ _ _)

theorem Halts.unique {items : List Term} {last : Term}
    {outcome other : Except CollectionFault (List Term)} (halts : Halts graph items last outcome)
    (otherHalts : Halts graph items last other) : outcome = other := by
  cases halts with
  | atEnd =>
      cases otherHalts with
      | atEnd => rfl
      | withoutFirst notNil | withoutRest notNil => exact absurd rfl notNil
  | withoutFirst notNil without =>
      cases otherHalts with
      | atEnd => exact absurd rfl notNil
      | withoutFirst => rfl
      | withoutRest _ first => exact absurd first (without _)
  | withoutRest notNil first =>
      cases otherHalts with
      | atEnd => exact absurd rfl notNil
      | withoutFirst _ without => exact absurd first (without _)
      | withoutRest => rfl

/-! ## Single cells -/

/-- Cells that lead to an end pass through every node to which cells lead from their start. -/
theorem Spans.through (single : graph.SingleCells) {start middle last : Term}
    {items before : List Term} (spans : Spans graph start items last)
    (noCell : NoCell graph last) (other : Spans graph start before middle) :
    ∃ behind, items = before ++ behind ∧ Spans graph middle behind last := by
  induction other generalizing items with
  | here => exact ⟨items, rfl, spans⟩
  | cell notNil first rest further ih =>
      cases spans with
      | here => exact absurd (.cell notNil first rest further) (noCell _ _ _)
      | cell _ first' rest' spans =>
          cases single.first _ _ _ first first'
          cases single.rest _ _ _ rest rest'
          obtain ⟨behind, rfl, beyond⟩ := ih spans
          exact ⟨behind, rfl, beyond⟩

theorem Spans.unique (single : graph.SingleCells) {start last other : Term}
    {items others : List Term} (spans : Spans graph start items last)
    (noCell : NoCell graph last) (otherSpans : Spans graph start others other)
    (otherNoCell : NoCell graph other) : items = others ∧ last = other := by
  obtain ⟨behind, rfl, beyond⟩ := spans.through single noCell otherSpans
  obtain ⟨rfl, rfl⟩ := otherNoCell.eq_of_spans beyond
  exact ⟨List.append_nil others, rfl⟩

/-- Each time around, a loop would leave fewer cells in front of an end. -/
theorem Spans.no_loop (single : graph.SingleCells) {cell last item : Term}
    {items around : List Term} (spans : Spans graph cell items last)
    (noCell : NoCell graph last) : ¬Spans graph cell (item :: around) cell := by
  intro loop
  obtain ⟨behind, split, beyond⟩ := spans.through single noCell loop
  have shorter : behind.length < items.length := by
    rw [split, List.cons_append, List.length_cons, List.length_append]
    omega
  exact beyond.no_loop single noCell loop
termination_by items.length

theorem not_loops_of_halts (single : graph.SingleCells) {head last : Term} {items : List Term}
    {outcome : Except CollectionFault (List Term)} (spans : Spans graph head items last)
    (halts : Halts graph items last outcome) : ¬Loops graph head := by
  rintro ⟨before, cell, item, around, toCell, loop⟩
  obtain ⟨behind, -, beyond⟩ := spans.through single halts.noCell toCell
  exact beyond.no_loop single halts.noCell loop

theorem readCollection_eq_of_halts (single : graph.SingleCells) {head last : Term}
    {items : List Term} {outcome : Except CollectionFault (List Term)}
    (spans : Spans graph head items last) (halts : Halts graph items last outcome) :
    readCollection graph head = outcome := by
  rcases readCollection_halts_or_loops graph head with ⟨others, other, otherSpans, read⟩ | loops
  · obtain ⟨rfl, rfl⟩ := spans.unique single halts.noCell otherSpans read.noCell
    exact read.unique halts
  · exact absurd loops.1 (not_loops_of_halts single spans halts)

theorem readCollection_eq_cycle_iff (single : graph.SingleCells) {head : Term} :
    readCollection graph head = .error .cycle ↔ Loops graph head := by
  rcases readCollection_halts_or_loops graph head with ⟨items, last, spans, halts⟩ | ⟨loops, read⟩
  · refine iff_of_false (fun read => ?_) (not_loops_of_halts single spans halts)
    rw [read] at halts
    cases halts
  · exact iff_of_true read loops

/-- All but the fault of a cycle come of a node that is no cell. -/
theorem readCollection_eq_iff_halts (single : graph.SingleCells) {head : Term}
    {outcome : Except CollectionFault (List Term)} (noCycle : outcome ≠ .error .cycle) :
    readCollection graph head = outcome ↔
      ∃ items last, Spans graph head items last ∧ Halts graph items last outcome := by
  constructor
  · rintro rfl
    exact (readCollection_halts_or_loops graph head).resolve_right fun loops => noCycle loops.2
  · rintro ⟨items, last, spans, halts⟩
    exact readCollection_eq_of_halts single spans halts

end RdfPipeline.Rdf

namespace RdfPipeline.Shape

open Rdf

variable {graph : Graph}

/-! ## What is read from a head -/

theorem readCollection_eq_ok_iff {head : Term} {items : List Term} :
    readCollection graph head = .ok items ↔ Rdf.readCollection graph head = .ok items := by
  rw [readCollection]
  cases Rdf.readCollection graph head <;> simp [Except.mapError]

theorem readCollection_eq_error_iff {head : Term} {fault : CollectionFault} :
    readCollection graph head = .error (.collection head fault) ↔
      Rdf.readCollection graph head = .error fault := by
  rw [readCollection]
  cases Rdf.readCollection graph head <;> simp [Except.mapError]

theorem exists_of_readCollection_eq_error {head : Term} {fault : Fault}
    (failed : readCollection graph head = .error fault) : ∃ reason, fault = .collection head reason := by
  rw [readCollection] at failed
  cases read : Rdf.readCollection graph head with
  | ok items =>
      rw [read] at failed
      cases failed
  | error reason =>
      rw [read] at failed
      cases failed
      exact ⟨reason, rfl⟩

theorem not_links_literal {literal : Literal} {predicate : Iri} {target : Term} :
    ¬graph.Links predicate (.literal literal) target := by
  rintro ⟨triple, -, isSubject, -⟩
  cases subject : triple.subject <;> simp [subject, Subject.toTerm] at isSubject

/-- Where no node has two values of `rdf:first` or of `rdf:rest`, the walk along the cells of a head
comes to an end. The items are read if and only if the cells with them lead to `rdf:nil`. Otherwise
the fault tells whether the cells lead back to one of them, to a node without an item, as each
literal is, or to a node without a rest, and shapes that need the items are refused with it. -/
theorem readCollection_exact (single : graph.SingleCells) (head : Term) :
    Walks graph [] head (Rdf.readCollection graph head) ∧
    (∀ items, readCollection graph head = .ok items ↔
      Spans graph head items (.iri (rdf "nil"))) ∧
    (readCollection graph head = .error (.collection head .cycle) ↔ Loops graph head) ∧
    (readCollection graph head = .error (.collection head .missingFirst) ↔
      ∃ before last, Spans graph head before last ∧ last ≠ .iri (rdf "nil") ∧
        ∀ item, ¬graph.Links (rdf "first") last item) ∧
    (readCollection graph head = .error (.collection head .missingRest) ↔
      ∃ before last item, Spans graph head before last ∧ last ≠ .iri (rdf "nil") ∧
        graph.Links (rdf "first") last item ∧ ∀ next, ¬graph.Links (rdf "rest") last next) ∧
    (∀ before literal, Spans graph head before (.literal literal) →
      readCollection graph head = .error (.collection head .missingFirst)) ∧
    (∀ fault, readCollection graph head = .error fault →
      ∃ reason, fault = .collection head reason) ∧
    ∀ reason supply text left, Turtle.parse? supply text = some (graph, left) →
      ShapesGraph.ofGraph graph = .error (.collection head reason) →
      ShapesGraph.parse supply text =
        .error (.shapes (head.toText ++ ": " ++ reason.message)) := by
  have withoutFirst : readCollection graph head = .error (.collection head .missingFirst) ↔
      ∃ before last, Spans graph head before last ∧ last ≠ .iri (rdf "nil") ∧
        ∀ item, ¬graph.Links (rdf "first") last item := by
    rw [readCollection_eq_error_iff, readCollection_eq_iff_halts single (by simp)]
    constructor
    · rintro ⟨before, last, spans, halts⟩
      cases halts with
      | withoutFirst notNil without => exact ⟨before, last, spans, notNil, without⟩
    · rintro ⟨before, last, spans, notNil, without⟩
      exact ⟨before, last, spans, .withoutFirst notNil without⟩
  refine ⟨walks_readCollection graph head, fun items => ?whole, ?cyclic, withoutFirst, ?withoutRest,
    fun before literal spans => ?literal, fun fault => exists_of_readCollection_eq_error,
    fun reason supply text left parsed failed => ?reported⟩
  case whole =>
    rw [readCollection_eq_ok_iff, readCollection_eq_iff_halts single (by simp)]
    constructor
    · rintro ⟨_, last, spans, halts⟩
      cases halts with
      | atEnd => exact spans
    · intro spans
      exact ⟨items, _, spans, .atEnd⟩
  case cyclic => rw [readCollection_eq_error_iff, readCollection_eq_cycle_iff single]
  case withoutRest =>
    rw [readCollection_eq_error_iff, readCollection_eq_iff_halts single (by simp)]
    constructor
    · rintro ⟨before, last, spans, halts⟩
      cases halts with
      | withoutRest notNil first without => exact ⟨before, last, _, spans, notNil, first, without⟩
    · rintro ⟨before, last, item, spans, notNil, first, without⟩
      exact ⟨before, last, spans, .withoutRest notNil first without⟩
  case literal =>
    exact withoutFirst.mpr ⟨before, _, spans, nofun, fun _ => not_links_literal⟩
  case reported =>
    rw [ShapesGraph.parse, parsed]
    dsimp only
    rw [failed]
    rfl

/-! Three heads in one graph. -/

/-- The cells of the first head lead to `rdf:nil`, those of the second to two cells that lead to
each other, and the cell of the third to a literal. -/
def threeHeads : Graph where
  triples :=
    [ ⟨.blank (.fresh 0), rdf "first", .literal (.plain "a")⟩,
      ⟨.blank (.fresh 0), rdf "rest", .iri (sh "tail")⟩,
      ⟨.iri (sh "tail"), rdf "first", .literal (.plain "a")⟩,
      ⟨.iri (sh "tail"), rdf "rest", .iri (rdf "nil")⟩,
      ⟨.blank (.fresh 1), rdf "first", .literal (.plain "b")⟩,
      ⟨.blank (.fresh 1), rdf "rest", .blank (.fresh 2)⟩,
      ⟨.blank (.fresh 2), rdf "first", .literal (.plain "c")⟩,
      ⟨.blank (.fresh 2), rdf "rest", .iri (sh "loop")⟩,
      ⟨.iri (sh "loop"), rdf "first", .literal (.plain "d")⟩,
      ⟨.iri (sh "loop"), rdf "rest", .blank (.fresh 2)⟩,
      ⟨.blank (.fresh 3), rdf "first", .literal (.plain "e")⟩,
      ⟨.blank (.fresh 3), rdf "rest", .literal (.plain "end")⟩ ]
  nodup := by decide

theorem singleCells_threeHeads : threeHeads.SingleCells := by
  have functional : ∀ left ∈ threeHeads.triples, ∀ right ∈ threeHeads.triples,
      left.subject.toTerm = right.subject.toTerm → left.predicate = right.predicate →
      left.object = right.object := by decide
  constructor
  all_goals
    rintro cell _ _ ⟨left, leftIn, rfl, predicate, rfl⟩ ⟨right, rightIn, same, other, rfl⟩
    exact functional left leftIn right rightIn same.symm (predicate.trans other.symm)

theorem spans_threeHeads (node : Subject) {item next last : Term} {items : List Term}
    (cell : node.toTerm ≠ .iri (rdf "nil") ∧ ⟨node, rdf "first", item⟩ ∈ threeHeads.triples ∧
      ⟨node, rdf "rest", next⟩ ∈ threeHeads.triples)
    (spans : Spans threeHeads next items last) :
    Spans threeHeads node.toTerm (item :: items) last :=
  .cell cell.1 ⟨_, cell.2.1, rfl, rfl, rfl⟩ ⟨_, cell.2.2, rfl, rfl, rfl⟩ spans

theorem readCollection_exact_threeHeads :
    threeHeads.SingleCells ∧
      readCollection threeHeads (.blank (.fresh 0)) =
        .ok [.literal (.plain "a"), .literal (.plain "a")] ∧
      readCollection threeHeads (.blank (.fresh 1)) =
        .error (.collection (.blank (.fresh 1)) .cycle) ∧
      readCollection threeHeads (.blank (.fresh 3)) =
        .error (.collection (.blank (.fresh 3)) .missingFirst) := by
  have single := singleCells_threeHeads
  obtain ⟨-, whole, -⟩ := readCollection_exact single (.blank (.fresh 0))
  obtain ⟨-, -, cyclic, -⟩ := readCollection_exact single (.blank (.fresh 1))
  obtain ⟨-, -, -, -, -, literal, -⟩ := readCollection_exact single (.blank (.fresh 3))
  have toEnd : Spans threeHeads (.blank (.fresh 0))
      [.literal (.plain "a"), .literal (.plain "a")] (.iri (rdf "nil")) :=
    spans_threeHeads (.blank (.fresh 0)) (by decide)
      (spans_threeHeads (.iri (sh "tail")) (by decide) .here)
  have toLoop : Spans threeHeads (.blank (.fresh 1)) [.literal (.plain "b")] (.blank (.fresh 2)) :=
    spans_threeHeads (.blank (.fresh 1)) (by decide) .here
  have around : Spans threeHeads (.blank (.fresh 2))
      [.literal (.plain "c"), .literal (.plain "d")] (.blank (.fresh 2)) :=
    spans_threeHeads (.blank (.fresh 2)) (by decide)
      (spans_threeHeads (.iri (sh "loop")) (by decide) .here)
  have toLiteral : Spans threeHeads (.blank (.fresh 3)) [.literal (.plain "e")]
      (.literal (.plain "end")) :=
    spans_threeHeads (.blank (.fresh 3)) (by decide) .here
  exact ⟨single, (whole _).mpr toEnd, cyclic.mpr ⟨_, _, _, _, toLoop, around⟩,
    literal _ _ toLiteral⟩

end RdfPipeline.Shape
