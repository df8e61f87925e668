import RdfPipeline.Proofs.Shape.PathEncoding
import RdfPipeline.Proofs.Shape.Reading

/-!
# Reading paths

The reader of paths undoes their encoding up to its bound on nesting, and refuses what is nested
deeper. Of any other graph it reads paths within the bound or tells a fault.
-/

set_option autoImplicit false

namespace RdfPipeline.Shape

open Rdf (BlankNode Graph IsCollection Iri Term Triple rdf)

/-! ## Reading encodings -/

/-- The reading fails, and if every sequence in the path is long, then for its depth alone. -/
def Refused {α : Type} (long : Prop) (reading : Except Fault α) : Prop :=
  ∃ fault, reading = .error fault ∧ (long → ∃ node, fault = .pathTooDeep node)

theorem Refused.bind {α β : Type} {long : Prop} {reading : Except Fault α}
    (refused : Refused long reading) (next : α → Except Fault β) :
    Refused long (reading >>= next) := by
  obtain ⟨fault, rfl, tooDeep⟩ := refused
  exact ⟨fault, rfl, tooDeep⟩

theorem Refused.map {α β : Type} {long : Prop} {reading : Except Fault α}
    (refused : Refused long reading) (convert : α → β) : Refused long (reading.map convert) := by
  obtain ⟨fault, rfl, tooDeep⟩ := refused
  exact ⟨fault, rfl, tooDeep⟩

theorem Refused.mono {α : Type} {long shorter : Prop} {reading : Except Fault α}
    (refused : Refused shorter reading) (implied : long → shorter) : Refused long reading := by
  obtain ⟨fault, same, tooDeep⟩ := refused
  exact ⟨fault, same, fun isLong => tooDeep (implied isLong)⟩

/-- The node spells out the path: it is read as the path with enough levels, and refused with
fewer. -/
structure Spells (graph : Graph) (node : Term) (path : Path) : Prop where
  read : path.HasLongSequences → ∀ {levels : Nat}, path.height < levels →
    readPath graph levels node = .ok path
  refused : ∀ {levels : Nat}, levels ≤ path.height →
    Refused path.HasLongSequences (readPath graph levels node)

theorem spells_of_succ {graph : Graph} {node : Term} {path : Path}
    (read : path.HasLongSequences → ∀ levels, path.height ≤ levels →
      readPath graph (levels + 1) node = .ok path)
    (refused : ∀ levels, levels < path.height →
      Refused path.HasLongSequences (readPath graph (levels + 1) node)) :
    Spells graph node path := by
  refine ⟨fun long levels enough => ?_, fun {levels} few => ?_⟩
  · cases levels with
    | zero => exact absurd enough (Nat.not_lt_zero _)
    | succ levels => exact read long levels (Nat.le_of_lt_succ enough)
  · cases levels with
    | zero => exact ⟨.pathTooDeep node, rfl, fun _ => ⟨node, rfl⟩⟩
    | succ levels => exact refused levels few

theorem spells_predicate (graph : Graph) (iri : Iri) :
    Spells graph (.iri iri) (.predicate iri) :=
  spells_of_succ (fun _ _ _ => rfl) fun _ few => absurd few (Nat.not_lt_zero _)

theorem spells_emptySequence (graph : Graph) :
    Spells graph (.iri (rdf "nil")) (.sequence []) := by
  refine spells_of_succ (fun long => ?_) fun _ few => absurd few (Nat.not_lt_zero _)
  cases long with
  | sequence enough _ => exact absurd enough (by simp)

/-! ### Wrapped paths -/

section Wrappers

variable {property : String} {wrap : Path → Path}

theorem mem_wrappers_iff :
    (property, wrap) ∈ wrappers ↔
      property = "inversePath" ∧ wrap = .inverse ∨
        property = "zeroOrMorePath" ∧ wrap = .zeroOrMore ∨
        property = "oneOrMorePath" ∧ wrap = .oneOrMore ∨
        property = "zeroOrOnePath" ∧ wrap = .zeroOrOne := by
  simp [wrappers]

theorem height_wrap (known : (property, wrap) ∈ wrappers) (path : Path) :
    (wrap path).height = path.height + 1 := by
  rcases mem_wrappers_iff.mp known with ⟨-, rfl⟩ | ⟨-, rfl⟩ | ⟨-, rfl⟩ | ⟨-, rfl⟩ <;>
    rw [Path.height]

theorem hasLongSequences_wrap_iff (known : (property, wrap) ∈ wrappers) {path : Path} :
    (wrap path).HasLongSequences ↔ path.HasLongSequences := by
  constructor
  · intro long
    rcases mem_wrappers_iff.mp known with ⟨-, rfl⟩ | ⟨-, rfl⟩ | ⟨-, rfl⟩ | ⟨-, rfl⟩ <;>
      cases long <;> assumption
  · intro long
    rcases mem_wrappers_iff.mp known with ⟨-, rfl⟩ | ⟨-, rfl⟩ | ⟨-, rfl⟩ | ⟨-, rfl⟩ <;>
      constructor <;> exact long

variable {graph : Graph} {node inner : Term}

theorem wrapper?_eq_some (known : (property, wrap) ∈ wrappers)
    (found : graph.objectOf? node (sh property) = some inner)
    (others : ∀ name, name ≠ property → graph.objectOf? node (sh name) = none) :
    wrapper? graph node = some (wrap, inner) := by
  rcases mem_wrappers_iff.mp known with ⟨rfl, rfl⟩ | ⟨rfl, rfl⟩ | ⟨rfl, rfl⟩ | ⟨rfl, rfl⟩ <;>
    simp [wrapper?, wrappers, found, others]

theorem wrapper?_eq_none
    (none : ∀ entry ∈ wrappers, graph.objectOf? node (sh entry.1) = .none) :
    wrapper? graph node = .none := by
  rw [wrapper?, List.findSome?_eq_none_iff]
  rintro ⟨property, wrap⟩ known
  simp only [none _ known, Option.map_none]

theorem mem_wrappers_of_wrapper? (found : wrapper? graph node = some (wrap, inner)) :
    ∃ property, (property, wrap) ∈ wrappers := by
  obtain ⟨⟨property, wrap⟩, known, here⟩ := List.exists_of_findSome?_eq_some found
  obtain ⟨inner, -, same⟩ := Option.map_eq_some_iff.mp here
  cases same
  exact ⟨property, known⟩

theorem Spells.wrapped {node : BlankNode} {path : Path} (spells : Spells graph inner path)
    (known : (property, wrap) ∈ wrappers)
    (found : wrapper? graph (.blank node) = some (wrap, inner)) :
    Spells graph (.blank node) (wrap path) := by
  have unfolded : ∀ levels,
      readPath graph (levels + 1) (.blank node) = (readPath graph levels inner).map wrap := by
    intro levels
    rw [readPath, found]
  refine spells_of_succ (fun long levels enough => ?_) fun levels few => ?_
  · rw [height_wrap known] at enough
    rw [unfolded, spells.read ((hasLongSequences_wrap_iff known).mp long) enough]
    rfl
  · rw [height_wrap known] at few
    rw [unfolded]
    refine ((spells.refused (Nat.le_of_lt_succ few)).map wrap).mono ?_
    exact (hasLongSequences_wrap_iff known).mp

end Wrappers

/-! ### Members -/

variable {graph : Graph} {members : List Term} {parts : List Path}

theorem mapM_readPath_eq_ok (spelled : List.Forall₂ (Spells graph) members parts)
    (long : ∀ part ∈ parts, part.HasLongSequences) {levels : Nat}
    (enough : Path.partsHeight parts ≤ levels) :
    members.mapM (readPath graph levels) = .ok parts := by
  induction spelled with
  | nil => rfl
  | @cons member part members parts first _ ih =>
      rw [Path.partsHeight] at enough
      obtain ⟨longFirst, longRest⟩ := List.forall_mem_cons.mp long
      rw [List.mapM_cons, first.read longFirst (by omega), ih longRest (by omega)]
      rfl

theorem mapM_readPath_refused (spelled : List.Forall₂ (Spells graph) members parts) {levels : Nat}
    (few : levels < Path.partsHeight parts) :
    Refused (∀ part ∈ parts, part.HasLongSequences) (members.mapM (readPath graph levels)) := by
  induction spelled with
  | nil => exact absurd few (Nat.not_lt_zero _)
  | @cons member part members parts first _ ih =>
      rw [Path.partsHeight] at few
      rw [List.mapM_cons]
      -- In front of a member that is too deep, one with a short sequence may fail already.
      by_cases deep : levels ≤ part.height
      · exact ((first.refused deep).bind _).mono fun long => long part List.mem_cons_self
      · cases outcome : readPath graph levels member with
        | error fault =>
            refine ⟨fault, rfl, fun long => ?_⟩
            rw [first.read (long part List.mem_cons_self) (by omega)] at outcome
            cases outcome
        | ok value =>
            exact ((ih (by omega)).bind _).mono fun long => (List.forall_mem_cons.mp long).2

/-- A node that is read by its members spells out a path of what they spell out. -/
theorem spells_of_members {node : BlankNode} {path : Path}
    (finish : List Path → Except Fault Path) (spelled : List.Forall₂ (Spells graph) members parts)
    (height : path.height = Path.partsHeight parts)
    (long : path.HasLongSequences → ∀ part ∈ parts, part.HasLongSequences)
    (finished : path.HasLongSequences → finish parts = .ok path)
    (unfolded : ∀ levels, readPath graph (levels + 1) (.blank node) =
      members.mapM (readPath graph levels) >>= finish) :
    Spells graph (.blank node) path := by
  refine spells_of_succ (fun isLong levels enough => ?_) fun levels few => ?_
  · rw [unfolded, mapM_readPath_eq_ok spelled (long isLong) (by omega)]
    exact finished isLong
  · rw [unfolded]
    exact ((mapM_readPath_refused spelled (by omega)).bind finish).mono long

theorem readCollection_eq_ok {head : Term} (collection : IsCollection graph head members) :
    readCollection graph head = .ok members := by
  rw [readCollection, Rdf.readCollection_eq_ok_iff.mpr collection]
  rfl

theorem spells_alternative {node : BlankNode} {head : Term}
    (unwrapped : wrapper? graph (.blank node) = none)
    (found : graph.objectOf? (.blank node) (sh "alternativePath") = some head)
    (collection : IsCollection graph head members)
    (spelled : List.Forall₂ (Spells graph) members parts) :
    Spells graph (.blank node) (.alternative parts) := by
  refine spells_of_members (fun parts => .ok (.alternative parts)) spelled (by rw [Path.height]) ?_
    (fun _ => rfl) fun levels => ?_
  · intro long
    cases long
    assumption
  · rw [readPath, unwrapped, found]
    dsimp only
    rw [readCollection_eq_ok collection]
    rfl

theorem spells_sequence {node : BlankNode}
    (unwrapped : wrapper? graph (.blank node) = none)
    (noAlternative : graph.objectOf? (.blank node) (sh "alternativePath") = none)
    (isCell : (graph.objectOf? (.blank node) (rdf "first")).isSome)
    (collection : IsCollection graph (.blank node) members)
    (spelled : List.Forall₂ (Spells graph) members parts) :
    Spells graph (.blank node) (.sequence parts) := by
  let finish (parts : List Path) : Except Fault Path :=
    if parts.length < 2 then .error (.shortSequence (.blank node)) else .ok (.sequence parts)
  refine spells_of_members finish spelled (by rw [Path.height]) ?_ ?_ fun levels => ?_
  · intro long
    cases long
    assumption
  · intro long
    cases long with
    | sequence enough _ => exact if_neg (by omega)
  · rw [readPath, unwrapped, noAlternative]
    dsimp only
    rw [if_pos isCell, readCollection_eq_ok collection]
    rfl

/-! ### Encodings -/

namespace HoldsOnly

open Encoding (StartsAt)

variable {blank : Nat → BlankNode} {start : Nat} {inner item rest : Encoding}

theorem spells_wrap {property : String} (wrap : Path → Path) {path : Path}
    (holdsOnly : HoldsOnly graph blank start (.wrapped (blank start) property inner))
    (distinct : blank.Injective) (starts : StartsAt blank (start + 1) inner)
    (known : (property, wrap) ∈ wrappers) (spells : Spells graph inner.root path) :
    Spells graph (.blank (blank start)) (wrap path) := by
  refine spells.wrapped known (wrapper?_eq_some known ?_ fun name other => ?_)
  · exact objectOf?_wrapped distinct holdsOnly starts
  · exact objectOf?_wrapped_of_ne distinct holdsOnly starts fun same => other (sh_inj.mp same)

theorem spells_alternative
    (holdsOnly : HoldsOnly graph blank start (.wrapped (blank start) "alternativePath" inner))
    (distinct : blank.Injective) (starts : StartsAt blank (start + 1) inner)
    (collection : IsCollection graph inner.root members)
    (spelled : List.Forall₂ (Spells graph) members parts) :
    Spells graph (.blank (blank start)) (.alternative parts) := by
  refine Shape.spells_alternative (wrapper?_eq_none fun entry known => ?_)
    (objectOf?_wrapped distinct holdsOnly starts) collection spelled
  refine objectOf?_wrapped_of_ne distinct holdsOnly starts fun same => ?_
  have names : "alternativePath" ∉ wrappers.map Prod.fst := by decide
  exact names (sh_inj.mp same ▸ List.mem_map_of_mem known)

theorem isCollection_cell
    (holdsOnly : HoldsOnly graph blank start (.cell (blank start) item rest))
    (distinct : blank.Injective) (itemStarts : StartsAt blank (start + 1) item)
    (restStarts : StartsAt blank item.next rest)
    (collection : IsCollection graph rest.root members) :
    IsCollection graph (.blank (blank start)) (item.root :: members) :=
  .cell nofun (objectOf?_first distinct holdsOnly itemStarts restStarts)
    (objectOf?_rest distinct holdsOnly itemStarts restStarts) collection

theorem spells_sequence
    (holdsOnly : HoldsOnly graph blank start (.cell (blank start) item rest))
    (distinct : blank.Injective) (itemStarts : StartsAt blank (start + 1) item)
    (restStarts : StartsAt blank item.next rest)
    (collection : IsCollection graph (.blank (blank start)) members)
    (spelled : List.Forall₂ (Spells graph) members parts) :
    Spells graph (.blank (blank start)) (.sequence parts) := by
  have noShapes := objectOf?_cell_sh distinct holdsOnly itemStarts restStarts
  refine Shape.spells_sequence (wrapper?_eq_none fun entry _ => noShapes entry.1) (noShapes _) ?_
    collection spelled
  rw [objectOf?_first distinct holdsOnly itemStarts restStarts]
  rfl

end HoldsOnly

mutual

theorem spells_encode {graph : Graph} {blank : Nat → BlankNode} (distinct : blank.Injective) :
    ∀ (path : Path) (start : Nat), HoldsOnly graph blank start (path.encode blank start) →
      Spells graph (path.encode blank start).root path
  | .predicate iri, _, _ => spells_predicate graph iri
  | .inverse path, start, holdsOnly =>
      holdsOnly.spells_wrap .inverse distinct (path.encode_startsAt blank _) (by simp [wrappers])
        (spells_encode distinct path _ (.of_wrapped distinct holdsOnly))
  | .sequence [], _, _ => spells_emptySequence graph
  | .sequence (part :: rest), start, holdsOnly => by
      obtain ⟨members, collection, spelled⟩ :=
        spells_encodeParts distinct (part :: rest) start holdsOnly
      exact holdsOnly.spells_sequence distinct (part.encode_startsAt blank _)
        (Path.encodeParts_startsAt blank rest _) collection spelled
  | .alternative parts, start, holdsOnly => by
      obtain ⟨members, collection, spelled⟩ :=
        spells_encodeParts distinct parts (start + 1) (.of_wrapped distinct holdsOnly)
      exact holdsOnly.spells_alternative distinct (Path.encodeParts_startsAt blank parts _)
        collection spelled
  | .zeroOrMore path, start, holdsOnly =>
      holdsOnly.spells_wrap .zeroOrMore distinct (path.encode_startsAt blank _)
        (by simp [wrappers]) (spells_encode distinct path _ (.of_wrapped distinct holdsOnly))
  | .oneOrMore path, start, holdsOnly =>
      holdsOnly.spells_wrap .oneOrMore distinct (path.encode_startsAt blank _)
        (by simp [wrappers]) (spells_encode distinct path _ (.of_wrapped distinct holdsOnly))
  | .zeroOrOne path, start, holdsOnly =>
      holdsOnly.spells_wrap .zeroOrOne distinct (path.encode_startsAt blank _)
        (by simp [wrappers]) (spells_encode distinct path _ (.of_wrapped distinct holdsOnly))

theorem spells_encodeParts {graph : Graph} {blank : Nat → BlankNode} (distinct : blank.Injective) :
    ∀ (parts : List Path) (start : Nat),
      HoldsOnly graph blank start (Path.encodeParts blank parts start) →
      ∃ members, IsCollection graph (Path.encodeParts blank parts start).root members ∧
        List.Forall₂ (Spells graph) members parts
  | [], _, _ => ⟨[], .nil, .nil⟩
  | part :: rest, start, holdsOnly => by
      have itemStarts := part.encode_startsAt blank (start + 1)
      have restStarts := Path.encodeParts_startsAt blank rest (part.encode blank (start + 1)).next
      have first := spells_encode distinct part (start + 1)
        (.of_cell_item distinct holdsOnly restStarts)
      obtain ⟨members, collection, spelled⟩ := spells_encodeParts distinct rest _
        (.of_cell_rest distinct holdsOnly itemStarts)
      exact ⟨_, holdsOnly.isCollection_cell distinct itemStarts restStarts collection,
        .cons first spelled⟩

end

/-! ## Any graph -/

/-- A fault that tells of a path, not of another part of a shape. -/
def Fault.IsOfPath : Fault → Prop
  | .collection _ _ => True
  | .pathTooDeep _ => True
  | .shortSequence _ => True
  | .unsupportedPath _ => True
  | .literalPath _ => True
  | _ => False

theorem Path.partsHeight_le_iff {parts : List Path} {levels : Nat} :
    Path.partsHeight parts ≤ levels ↔ ∀ part ∈ parts, part.height < levels := by
  induction parts with
  | nil => simp [Path.partsHeight]
  | cons part rest ih =>
      rw [Path.partsHeight, Nat.max_le, ih, List.forall_mem_cons]
      exact Iff.rfl

theorem readCollection_settles (graph : Graph) (head : Term) :
    Settles (fun _ => True) Fault.IsOfPath (readCollection graph head) := by
  rw [readCollection]
  cases Rdf.readCollection graph head with
  | ok items => exact .ok trivial
  | error fault => exact .error trivial

theorem readPath_settles (graph : Graph) (levels : Nat) (node : Term) :
    Settles (fun path => path.height < levels ∧ path.HasLongSequences) Fault.IsOfPath
      (readPath graph levels node) := by
  induction levels generalizing node with
  | zero => exact .error trivial
  | succ levels ih =>
      have members : ∀ items : List Term,
          Settles (fun parts => ∀ part ∈ parts, part.height < levels ∧ part.HasLongSequences)
            Fault.IsOfPath (items.mapM (readPath graph levels)) :=
        fun items => Settles.mapM fun item _ => ih item
      have low : ∀ {parts : List Path},
          (∀ part ∈ parts, part.height < levels ∧ part.HasLongSequences) →
          Path.partsHeight parts < levels + 1 := fun each =>
        Nat.lt_succ_of_le (Path.partsHeight_le_iff.mpr fun part member => (each part member).1)
      unfold readPath
      split
      next iri => exact .ok ⟨Nat.succ_pos _, .predicate iri⟩
      next => exact .error trivial
      next =>
        split
        next wrap inner found =>
          obtain ⟨property, known⟩ := mem_wrappers_of_wrapper? found
          refine (ih inner).map fun path ⟨lower, long⟩ =>
            ⟨?_, (hasLongSequences_wrap_iff known).mpr long⟩
          rw [height_wrap known]
          exact Nat.succ_lt_succ lower
        next =>
          split
          next head _ =>
            refine (readCollection_settles graph head).bind fun items _ => ?_
            refine (members items).bind fun parts each => .ok ⟨?_, .alternative ?_⟩
            · rw [Path.height]
              exact low each
            · exact fun part member => (each part member).2
          next =>
            split
            next =>
              refine (readCollection_settles graph _).bind fun items _ => ?_
              refine (members items).bind fun parts each => ?_
              split
              next => exact .error trivial
              next notShort =>
                refine .ok ⟨?_, .sequence (Nat.le_of_not_lt notShort) ?_⟩
                · rw [Path.height]
                  exact low each
                · exact fun part member => (each part member).2
            next => exact .error trivial

/-- The reader of paths inverts their encoding up to 16 levels of nesting and refuses what is nested
deeper. Whatever the graph, collections are walked to an end, and a path within the bound or a fault
comes out. -/
theorem parsePath_encode :
    (∀ (graph : Graph) (blank : Nat → BlankNode) (start : Nat) (path : Path),
      blank.Injective → HoldsOnly graph blank start (path.encode blank start) →
      (path.height ≤ 16 → path.HasLongSequences →
        parsePath graph (path.encode blank start).root = .ok path) ∧
      (16 < path.height →
        ∃ fault, parsePath graph (path.encode blank start).root = .error fault ∧
          (path.HasLongSequences → ∃ node, fault = .pathTooDeep node))) ∧
    ∀ (graph : Graph) (node : Term),
      Rdf.Walks graph [] node (Rdf.readCollection graph node) ∧
      ((∃ path, parsePath graph node = .ok path ∧ path.height ≤ 16 ∧ path.HasLongSequences) ∨
        ∃ fault, parsePath graph node = .error fault ∧ fault.IsOfPath) := by
  constructor
  · intro graph blank start path distinct holdsOnly
    have spells := spells_encode distinct path start holdsOnly
    exact ⟨fun low long => spells.read long (Nat.lt_succ_of_le low),
      fun deep => spells.refused deep⟩
  · intro graph node
    refine ⟨Rdf.walks_readCollection graph node, ?_⟩
    have settles := readPath_settles graph (maxPathDepth + 1) node
    cases outcome : readPath graph (maxPathDepth + 1) node with
    | ok path =>
        rw [outcome] at settles
        cases settles with
        | ok within => exact .inl ⟨path, outcome, Nat.le_of_lt_succ within.1, within.2⟩
    | error fault =>
        rw [outcome] at settles
        cases settles with
        | error ofPath => exact .inr ⟨fault, outcome, ofPath⟩

/-- A path with collections in one another, in which `rdf:nil` is a predicate. -/
def mixedPath : Path :=
  .sequence [.inverse (.predicate (rdf "nil")),
    .alternative [.zeroOrMore (.predicate (rdf "first")), .alternative []]]

theorem mixedPath_hasLongSequences : mixedPath.HasLongSequences := by
  have inner : ∀ part ∈ [Path.zeroOrMore (.predicate (rdf "first")), .alternative []],
      part.HasLongSequences :=
    List.forall_mem_cons.mpr
      ⟨.zeroOrMore (.predicate _), List.forall_mem_singleton.mpr (.alternative (by simp))⟩
  exact .sequence (by decide) (List.forall_mem_cons.mpr
    ⟨.inverse (.predicate _), List.forall_mem_singleton.mpr (.alternative inner)⟩)

def inverses : Nat → Path
  | 0 => .predicate (rdf "type")
  | levels + 1 => .inverse (inverses levels)

theorem inverses_hasLongSequences : ∀ levels, (inverses levels).HasLongSequences
  | 0 => .predicate _
  | levels + 1 => .inverse (inverses_hasLongSequences levels)

/-- A property shape with the path, and the triples of the path. -/
def graphOfPath (path : Path) : Graph :=
  let encoding := path.encode .fresh 0
  .ofList ([⟨.iri (sh "shape"), sh "path", encoding.root⟩] ++ encoding.triples)

theorem holdsOnly_graphOfPath (path : Path) :
    HoldsOnly (graphOfPath path) .fresh 0 (path.encode .fresh 0) :=
  holdsOnly_ofList (by simp)

theorem parsePath_encode_graphOfPath :
    parsePath (graphOfPath mixedPath) (.blank (.fresh 0)) = .ok mixedPath ∧
      ∃ node, parsePath (graphOfPath (inverses 17)) (.blank (.fresh 0)) =
        .error (.pathTooDeep node) := by
  have distinct : BlankNode.fresh.Injective := fun _ _ => BlankNode.fresh.inj
  have mixed := (parsePath_encode.1 _ .fresh 0 mixedPath distinct (holdsOnly_graphOfPath _)).1
  have deep := (parsePath_encode.1 _ .fresh 0 (inverses 17) distinct (holdsOnly_graphOfPath _)).2
  refine ⟨mixed (by decide) mixedPath_hasLongSequences, ?_⟩
  obtain ⟨fault, refused, tooDeep⟩ := deep (by decide)
  obtain ⟨node, rfl⟩ := tooDeep (inverses_hasLongSequences 17)
  exact ⟨node, refused⟩

end RdfPipeline.Shape
