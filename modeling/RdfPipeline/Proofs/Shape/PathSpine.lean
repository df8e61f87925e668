import RdfPipeline.Proofs.Shape.Compilation
import RdfPipeline.Proofs.Shape.PathReading
import RdfPipeline.Proofs.Shape.PathSemantics

/-!
# Spines of paths

A path is a predicate, a sequence or an alternative under inversions and repetitions. Inversions
commute with repetitions, so the relation of a path depends only on how many inversions it has there
and on which repetitions come after each other.
-/

set_option autoImplicit false

namespace RdfPipeline.Shape

open Rdf (Graph Iri Term)
open Relation

namespace Path

/-! ## Paths that can be read -/

mutual

def predicates : Path → List Iri
  | .predicate iri => [iri]
  | .inverse path => predicates path
  | .sequence parts => partPredicates parts
  | .alternative parts => partPredicates parts
  | .zeroOrMore path => predicates path
  | .oneOrMore path => predicates path
  | .zeroOrOne path => predicates path

def partPredicates : List Path → List Iri
  | [] => []
  | part :: rest => predicates part ++ partPredicates rest

end

/-- The text of the IRI has no angle brackets. -/
def HasNoBrackets (iri : Iri) : Prop :=
  '<' ∉ iri.text.toList ∧ '>' ∉ iri.text.toList

instance (iri : Iri) : Decidable (HasNoBrackets iri) :=
  inferInstanceAs (Decidable (_ ∧ _))

/-- A path as it can be read from a graph whose IRIs have no angle brackets. -/
structure IsReadable (path : Path) : Prop where
  long : path.HasLongSequences
  noBrackets : ∀ iri ∈ path.predicates, HasNoBrackets iri

theorem mem_partPredicates_iff {parts : List Path} {iri : Iri} :
    iri ∈ partPredicates parts ↔ ∃ part ∈ parts, iri ∈ part.predicates := by
  induction parts with
  | nil => simp [partPredicates]
  | cons part rest ih => simp [partPredicates, ih]

theorem noBrackets_of_parts {parts : List Path}
    (noBrackets : ∀ iri ∈ partPredicates parts, HasNoBrackets iri) :
    ∀ part ∈ parts, ∀ iri ∈ part.predicates, HasNoBrackets iri :=
  fun part member iri mentioned =>
    noBrackets iri (mem_partPredicates_iff.mpr ⟨part, member, mentioned⟩)

theorem IsReadable.of_sequence {parts : List Path} (readable : (Path.sequence parts).IsReadable) :
    2 ≤ parts.length ∧ ∀ part ∈ parts, part.IsReadable := by
  cases readable.long with
  | sequence enough each =>
      have noBrackets := noBrackets_of_parts readable.noBrackets
      exact ⟨enough, fun part member => ⟨each part member, noBrackets part member⟩⟩

theorem IsReadable.of_alternative {parts : List Path}
    (readable : (Path.alternative parts).IsReadable) : ∀ part ∈ parts, part.IsReadable := by
  cases readable.long with
  | alternative each =>
      have noBrackets := noBrackets_of_parts readable.noBrackets
      exact fun part member => ⟨each part member, noBrackets part member⟩

end Path

theorem objectOf?_of_wrapper? {graph : Graph} {node inner : Term} {wrap : Path → Path}
    (found : wrapper? graph node = some (wrap, inner)) :
    ∃ property, (property, wrap) ∈ wrappers ∧ graph.objectOf? node (sh property) = some inner := by
  obtain ⟨⟨property, wrap'⟩, known, here⟩ := List.exists_of_findSome?_eq_some found
  obtain ⟨inner', first, same⟩ := Option.map_eq_some_iff.mp here
  cases same
  exact ⟨property, known, first⟩

theorem predicates_wrap {property : String} {wrap : Path → Path}
    (known : (property, wrap) ∈ wrappers) (path : Path) :
    (wrap path).predicates = path.predicates := by
  rcases mem_wrappers_iff.mp known with ⟨-, rfl⟩ | ⟨-, rfl⟩ | ⟨-, rfl⟩ | ⟨-, rfl⟩ <;>
    rw [Path.predicates]

/-- The predicates of a path that is read from a graph are terms of the graph. -/
theorem readPath_predicates {graph : Graph} (levels : Nat) {node : Term}
    (inGraph : node ∈ graph.terms) :
    Yields (fun path => ∀ iri ∈ path.predicates, Term.iri iri ∈ graph.terms)
      (readPath graph levels node) := by
  induction levels generalizing node with
  | zero => exact .error _
  | succ levels ih =>
      have members {items : List Term} (itemsInGraph : ∀ item ∈ items, item ∈ graph.terms) :
          Yields (fun parts => ∀ iri ∈ Path.partPredicates parts, Term.iri iri ∈ graph.terms)
            (items.mapM (readPath graph levels)) := by
        intro parts read iri mentioned
        obtain ⟨part, member, mentioned⟩ := Path.mem_partPredicates_iff.mp mentioned
        exact Yields.mapM (fun item listed => ih (itemsInGraph item listed)) parts read part member
          iri mentioned
      unfold readPath
      split
      next iri => exact .ok (by simpa [Path.predicates] using inGraph)
      next => exact .error _
      next =>
        split
        next wrap inner found =>
          obtain ⟨property, known, first⟩ := objectOf?_of_wrapper? found
          have innerInGraph := mem_terms_of_mem_objectsOf (mem_objectsOf_of_objectOf? first)
          refine (ih innerInGraph).map fun path each => ?_
          rw [predicates_wrap known]
          exact each
        next =>
          split
          next head _ =>
            refine (readCollection_terms head).bind fun items itemsInGraph => ?_
            exact (members itemsInGraph).bind fun parts each => .ok each
          next =>
            split
            next =>
              refine (readCollection_terms _).bind fun items itemsInGraph => ?_
              refine (members itemsInGraph).bind fun parts each => ?_
              split
              next => exact .error _
              next => exact .ok each
            next => exact .error _

theorem parsePath_isReadable {graph : Graph} {node : Term} {path : Path}
    (noBrackets : ∀ iri ∈ graph.terms.filterMap Term.asIri?, Path.HasNoBrackets iri)
    (inGraph : node ∈ graph.terms) (read : parsePath graph node = .ok path) : path.IsReadable := by
  constructor
  case long =>
    have settles := readPath_settles graph (maxPathDepth + 1) node
    rw [parsePath] at read
    rw [read] at settles
    cases settles with
    | ok known => exact known.2
  case noBrackets =>
    intro iri mentioned
    have inTerms := readPath_predicates (maxPathDepth + 1) inGraph path read iri mentioned
    exact noBrackets iri (List.mem_filterMap.mpr ⟨.iri iri, inTerms, rfl⟩)

namespace Path

/-! ## Spines -/

inductive Repetition where
  | zeroOrMore
  | oneOrMore
  | zeroOrOne
  deriving DecidableEq

inductive Core where
  | predicate (iri : Iri)
  | sequence (parts : List Path)
  | alternative (parts : List Path)

def Core.toPath : Core → Path
  | .predicate iri => .predicate iri
  | .sequence parts => .sequence parts
  | .alternative parts => .alternative parts

/-- A path without the order in which its inversions and repetitions alternate. -/
structure Spine where
  inversions : Nat
  core : Core
  /-- The innermost repetition comes first. -/
  repetitions : List Repetition

def Spine.invert (spine : Spine) : Spine :=
  { spine with inversions := spine.inversions + 1 }

def Spine.repeated (repetition : Repetition) (spine : Spine) : Spine :=
  { spine with repetitions := spine.repetitions ++ [repetition] }

def spine : Path → Spine
  | .predicate iri => ⟨0, .predicate iri, []⟩
  | .inverse path => (spine path).invert
  | .sequence parts => ⟨0, .sequence parts, []⟩
  | .alternative parts => ⟨0, .alternative parts, []⟩
  | .zeroOrMore path => (spine path).repeated .zeroOrMore
  | .oneOrMore path => (spine path).repeated .oneOrMore
  | .zeroOrOne path => (spine path).repeated .zeroOrOne

theorem height_core_le : ∀ path : Path, path.spine.core.toPath.height ≤ path.height
  | .predicate _ => Nat.le_refl _
  | .inverse path => Nat.le_succ_of_le (height_core_le path)
  | .sequence _ => Nat.le_refl _
  | .alternative _ => Nat.le_refl _
  | .zeroOrMore path => Nat.le_succ_of_le (height_core_le path)
  | .oneOrMore path => Nat.le_succ_of_le (height_core_le path)
  | .zeroOrOne path => Nat.le_succ_of_le (height_core_le path)

theorem predicates_core : ∀ path : Path, path.spine.core.toPath.predicates = path.predicates
  | .predicate _ => rfl
  | .inverse path => predicates_core path
  | .sequence _ => rfl
  | .alternative _ => rfl
  | .zeroOrMore path => predicates_core path
  | .oneOrMore path => predicates_core path
  | .zeroOrOne path => predicates_core path

theorem HasLongSequences.core {path : Path} (long : path.HasLongSequences) :
    path.spine.core.toPath.HasLongSequences := by
  induction long with
  | predicate iri => exact .predicate iri
  | sequence enough each => exact .sequence enough each
  | alternative each => exact .alternative each
  | inverse _ ih | zeroOrMore _ ih | oneOrMore _ ih | zeroOrOne _ ih => exact ih

theorem IsReadable.core {path : Path} (readable : path.IsReadable) :
    path.spine.core.toPath.IsReadable :=
  ⟨readable.long.core, predicates_core path ▸ readable.noBrackets⟩

/-! ## Meaning of a spine

Inversions commute with repetitions.
-/

def converse (relation : Term → Term → Prop) (source target : Term) : Prop :=
  relation target source

def Repetition.closure (relation : Term → Term → Prop) : Repetition → Term → Term → Prop
  | .zeroOrMore => ReflTransGen relation
  | .oneOrMore => TransGen relation
  | .zeroOrOne => fun source target => source = target ∨ relation source target

def Spine.Relates (graph : Graph) (spine : Spine) : Term → Term → Prop :=
  converse^[spine.inversions]
    (spine.repetitions.foldl Repetition.closure (Path.Relates graph spine.core.toPath))

theorem Repetition.closure_converse (repetition : Repetition) :
    Function.Semiconj (fun relation => repetition.closure relation) converse converse := by
  intro relation
  funext source target
  apply propext
  cases repetition with
  | zeroOrMore => exact reflTransGen_swap
  | oneOrMore => exact transGen_swap
  | zeroOrOne => exact or_congr_left eq_comm

theorem Spine.relates_invert (graph : Graph) (spine : Spine) :
    spine.invert.Relates graph = converse (spine.Relates graph) :=
  Function.iterate_succ_apply' _ _ _

theorem Spine.relates_repeated (graph : Graph) (repetition : Repetition) (spine : Spine) :
    (spine.repeated repetition).Relates graph = repetition.closure (spine.Relates graph) := by
  unfold Relates repeated
  rw [List.foldl_append, List.foldl_cons, List.foldl_nil]
  exact ((repetition.closure_converse.iterate_right spine.inversions) _).symm

theorem relates_spine (graph : Graph) : ∀ path : Path,
    Relates graph path = path.spine.Relates graph
  | .predicate _ => rfl
  | .sequence _ => rfl
  | .alternative _ => rfl
  | .inverse path => by
      rw [spine, Spine.relates_invert, ← relates_spine graph path]
      rfl
  | .zeroOrMore path => by
      rw [spine, Spine.relates_repeated, ← relates_spine graph path]
      rfl
  | .oneOrMore path => by
      rw [spine, Spine.relates_repeated, ← relates_spine graph path]
      rfl
  | .zeroOrOne path => by
      rw [spine, Spine.relates_repeated, ← relates_spine graph path]
      rfl

end Path

end RdfPipeline.Shape
