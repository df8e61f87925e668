import RdfPipeline.Proofs.Shape.ConstraintMeaning

/-!
# Checks decide satisfaction

What it means that a node satisfies a shape is given by recursion along references, as far as these
come to an end. A check with enough levels for all references reports nothing exactly at the nodes
that satisfy the shape.
-/

set_option autoImplicit false

namespace RdfPipeline.Shape

open Rdf (Graph Iri Term)

/-! ## References -/

/-- Some reference of `shape` leads to `referenced`. -/
def RefersTo (shapes : ShapesGraph) (referenced shape : Shape) : Prop :=
  ∃ id ∈ shape.references, shapes.get? id = some referenced

/-- A chain of that many references starts at the shape. -/
def HasChain (shapes : ShapesGraph) : Nat → Shape → Prop
  | 0, _ => True
  | length + 1, shape => ∃ referenced, RefersTo shapes referenced shape ∧
      HasChain shapes length referenced

/-- No chain of references from the shape is longer than `height`, so that there is no cycle below
it. -/
def ChainsWithin (shapes : ShapesGraph) (height : Nat) (shape : Shape) : Prop :=
  ∀ length, HasChain shapes length shape → length ≤ height

theorem ChainsWithin.exists_of_refersTo {shapes : ShapesGraph} {height : Nat}
    {shape referenced : Shape} (within : ChainsWithin shapes height shape)
    (refers : RefersTo shapes referenced shape) :
    ∃ below, height = below + 1 ∧ ChainsWithin shapes below referenced := by
  have further : ∀ length, HasChain shapes length referenced → length + 1 ≤ height :=
    fun length chain => within (length + 1) ⟨referenced, refers, chain⟩
  cases height with
  | zero => exact absurd (further 0 trivial) (Nat.not_succ_le_zero 0)
  | succ below =>
      exact ⟨below, rfl, fun length chain => Nat.le_of_succ_le_succ (further length chain)⟩

theorem ChainsWithin.acc {shapes : ShapesGraph} {height : Nat} {shape : Shape}
    (within : ChainsWithin shapes height shape) : Acc (RefersTo shapes) shape := by
  induction height generalizing shape with
  | zero =>
      refine .intro shape fun referenced refers => ?_
      obtain ⟨below, impossible, -⟩ := within.exists_of_refersTo refers
      cases impossible
  | succ below ih =>
      refine .intro shape fun referenced refers => ?_
      obtain ⟨_, same, referencedWithin⟩ := within.exists_of_refersTo refers
      obtain rfl := Nat.succ.inj same
      exact ih referencedWithin

/-! ## Satisfaction -/

/-- The values of a shape at a node: the terms that its path leads to, or the node itself. -/
def valueSet (graph : Graph) (shape : Shape) (node : Term) : Set Term :=
  match shape.path with
  | some path => {value | path.Relates graph node value}
  | none => {node}

/-- The condition of a shape on a node, given which terms satisfy the shapes that it refers to: its
constraints hold of its values, and its values satisfy its property shapes. -/
def Meets (graph : Graph) (shapes : ShapesGraph) (satisfies : Term → Term → Prop) (shape : Shape)
    (node : Term) : Prop :=
  shape.deactivated = true ∨
    ((∀ constraint ∈ shape.constraints,
        constraint.Holds graph shapes satisfies shape node (valueSet graph shape node)) ∧
      ∀ id ∈ shape.properties, ∀ value ∈ valueSet graph shape node, satisfies id value)

/-- Whether a node satisfies a shape from which references come to an end, by recursion along the
references. One that leads to no shape has no demands. -/
def Satisfies (graph : Graph) (shapes : ShapesGraph) (shape : Shape)
    (ends : Acc (RefersTo shapes) shape) : Term → Prop :=
  WellFounded.fixF
    (fun shape satisfied => Meets graph shapes
      (fun id value => ∀ referenced (mentioned : id ∈ shape.references)
        (found : shapes.get? id = some referenced),
        satisfied referenced ⟨id, mentioned, found⟩ value)
      shape)
    shape ends

theorem satisfies_iff {graph : Graph} {shapes : ShapesGraph} {shape : Shape}
    (ends : Acc (RefersTo shapes) shape) {node : Term} :
    Satisfies graph shapes shape ends node ↔ Meets graph shapes
      (fun id value => ∀ referenced (mentioned : id ∈ shape.references)
        (found : shapes.get? id = some referenced),
        Satisfies graph shapes referenced (ends.inv ⟨id, mentioned, found⟩) value)
      shape node := by
  rw [Satisfies, WellFounded.fixF_eq]
  exact Iff.rfl

/-! ## Checks -/

theorem mem_valueNodes_iff {graph : Graph} {shape : Shape} {node value : Term} :
    value ∈ valueNodes graph shape node ↔ value ∈ valueSet graph shape node := by
  unfold valueNodes valueSet
  cases shape.path with
  | none => simp
  | some path => exact Path.mem_values_iff

theorem nodup_valueNodes (graph : Graph) (shape : Shape) (node : Term) :
    (valueNodes graph shape node).Nodup := by
  unfold valueNodes
  cases shape.path with
  | none => simp
  | some path => exact Path.nodup_values graph path node

theorem ownResults_eq_nil_iff {graph : Graph} {shapes : ShapesGraph}
    {conforms : Term → Term → Bool} {shape : Shape} {focus : Term} {values : List Term} :
    ownResults graph shapes conforms shape focus values = [] ↔
      ∀ constraint ∈ shape.constraints,
        constraint.findings graph shapes conforms shape focus values = [] := by
  simp [ownResults]

@[simp] theorem conforms_zero (graph : Graph) (shapes : ShapesGraph) (node id : Term) :
    conforms graph shapes 0 node id = true :=
  rfl

theorem conforms_of_get?_eq_none {graph : Graph} {shapes : ShapesGraph} {levels : Nat}
    {node id : Term} (missing : shapes.get? id = none) :
    conforms graph shapes levels node id = true := by
  cases levels <;> simp [conforms, missing]

theorem conforms_succ_iff {graph : Graph} {shapes : ShapesGraph} {levels : Nat} {node id : Term}
    {shape : Shape} (found : shapes.get? id = some shape) :
    conforms graph shapes (levels + 1) node id = true ↔
      check graph shapes levels shape [node] = [] := by
  simp [conforms, found]

/-- With levels left, values conform to the shapes of references as with one level less. -/
theorem check_succ (graph : Graph) (shapes : ShapesGraph) (levels : Nat) (shape : Shape)
    (focusNodes : List Term) :
    check graph shapes (levels + 1) shape focusNodes =
      if shape.deactivated then []
      else focusNodes.flatMap fun focus =>
        ownResults graph shapes (conforms graph shapes (levels + 1)) shape focus
            (valueNodes graph shape focus) ++
          (shape.properties.filterMap shapes.get?).flatMap fun property =>
            check graph shapes levels property (valueNodes graph shape focus) := by
  rw [check]
  refine if_congr Iff.rfl rfl (congrArg focusNodes.flatMap (funext fun focus => ?_))
  refine congrArg (· ++ _) (congrArg (ownResults graph shapes · shape focus _) ?_)
  funext value id
  cases found : shapes.get? id <;> simp [conforms, found]

theorem check_eq_nil_iff_forall {graph : Graph} {shapes : ShapesGraph} {levels : Nat}
    {shape : Shape} {focusNodes : List Term} :
    check graph shapes levels shape focusNodes = [] ↔
      ∀ focus ∈ focusNodes, check graph shapes levels shape [focus] = [] := by
  cases levels <;> cases active : shape.deactivated <;> simp [check, active]

theorem checkProperties_eq_nil_iff {graph : Graph} {shapes : ShapesGraph} {levels : Nat}
    {ids values : List Term} :
    ((ids.filterMap shapes.get?).flatMap fun property =>
        check graph shapes levels property values) = [] ↔
      ∀ id ∈ ids, ∀ value ∈ values, conforms graph shapes (levels + 1) value id = true := by
  simp only [List.flatMap_eq_nil_iff, List.mem_filterMap]
  constructor
  · intro clean id member value valueMember
    cases found : shapes.get? id with
    | none => exact conforms_of_get?_eq_none found
    | some property =>
        rw [conforms_succ_iff found]
        exact check_eq_nil_iff_forall.mp (clean property ⟨id, member, found⟩) value valueMember
  · rintro conforming property ⟨id, member, found⟩
    refine check_eq_nil_iff_forall.mpr fun value valueMember => ?_
    exact (conforms_succ_iff found).mp (conforming id member value valueMember)

/-- With the levels that are left, property shapes are checked like the shapes of the other
references: a value has to conform. -/
theorem check_singleton_eq_nil_iff {graph : Graph} {shapes : ShapesGraph} {levels : Nat}
    {shape : Shape} {node : Term} :
    check graph shapes levels shape [node] = [] ↔
      shape.deactivated = true ∨
        ((∀ constraint ∈ shape.constraints,
            constraint.findings graph shapes (conforms graph shapes levels) shape node
              (valueNodes graph shape node) = []) ∧
          ∀ id ∈ shape.properties, ∀ value ∈ valueNodes graph shape node,
            conforms graph shapes levels value id = true) := by
  cases active : shape.deactivated with
  | true => cases levels <;> simp [check, active]
  | false =>
      cases levels with
      | zero =>
          have same : conforms graph shapes 0 = fun _ _ => true := rfl
          simp [check, active, ownResults_eq_nil_iff, same]
      | succ levels =>
          simp only [check_succ, active, Bool.false_eq_true, if_false, List.flatMap_cons,
            List.flatMap_nil, List.append_nil, List.append_eq_nil_iff, ownResults_eq_nil_iff,
            checkProperties_eq_nil_iff, false_or]

theorem mem_references_of_properties {shape : Shape} {id : Term} (member : id ∈ shape.properties) :
    id ∈ shape.references :=
  List.mem_append_left _ member

theorem mem_references_of_constraints {shape : Shape} {constraint : Constraint} {id : Term}
    (member : constraint ∈ shape.constraints) (mentioned : id ∈ constraint.references) :
    id ∈ shape.references :=
  List.mem_append_right _ (List.mem_flatMap.mpr ⟨constraint, member, mentioned⟩)

theorem check_eq_nil_iff_satisfies {graph : Graph} {shapes : ShapesGraph} {height levels : Nat}
    {shape : Shape} (within : ChainsWithin shapes height shape) (enough : height ≤ levels)
    {node : Term} :
    check graph shapes levels shape [node] = [] ↔
      Satisfies graph shapes shape within.acc node := by
  -- By induction on the longest chain: whatever the shape refers to has one level less, and chains
  -- that are shorter by one.
  induction height using Nat.strongRecOn generalizing shape levels node with
  | ind height ih =>
      have agree : ∀ id ∈ shape.references, ∀ value,
          conforms graph shapes levels value id = true ↔
            ∀ referenced (mentioned : id ∈ shape.references)
              (found : shapes.get? id = some referenced),
              Satisfies graph shapes referenced (within.acc.inv ⟨id, mentioned, found⟩) value := by
        intro id mentioned value
        rcases Option.eq_none_or_eq_some (shapes.get? id) with missing | ⟨referenced, found⟩
        · refine iff_of_true (conforms_of_get?_eq_none missing) fun referenced _ found => ?_
          rw [missing] at found
          cases found
        · obtain ⟨below, rfl, shorter⟩ := within.exists_of_refersTo ⟨id, mentioned, found⟩
          obtain ⟨fewer, rfl⟩ := Nat.exists_eq_add_one_of_ne_zero (Nat.ne_zero_of_lt enough)
          rw [conforms_succ_iff found,
            ih below (Nat.lt_succ_self below) shorter (Nat.le_of_succ_le_succ enough)]
          constructor
          · intro satisfied other _ otherFound
            obtain rfl := Option.some.inj (found.symm.trans otherFound)
            exact satisfied
          · exact fun satisfied => satisfied referenced mentioned found
      have values : {value | value ∈ valueNodes graph shape node} = valueSet graph shape node :=
        Set.ext fun value => mem_valueNodes_iff
      rw [satisfies_iff, check_singleton_eq_nil_iff, Meets, ← values]
      refine or_congr_right (and_congr (forall₂_congr fun constraint member => ?_)
        (forall₂_congr fun id member => forall₂_congr fun value _ => ?_))
      · exact constraint.findings_eq_nil_iff (nodup_valueNodes graph shape node) fun id mentioned =>
          agree id (mem_references_of_constraints member mentioned)
      · exact agree id (mem_references_of_properties member) value

/-- At a depth that leaves room for the longest chain of references, a shape reports nothing exactly
at the nodes that satisfy it, and as the target of a reference it is conformed to by these. -/
theorem check_iff_satisfies {shapes : ShapesGraph} {shape : Shape}
    (listed : shapes.get? shape.id = some shape) {height depth maxDepth : Nat}
    (within : ChainsWithin shapes height shape) (deepEnough : depth + height ≤ maxDepth)
    (graph : Graph) (node : Term) :
    (check graph shapes (maxDepth - depth) shape [node] = [] ↔
      Satisfies graph shapes shape within.acc node) ∧
    (1 ≤ depth →
      (conforms graph shapes (maxDepth - (depth - 1)) node shape.id = true ↔
        Satisfies graph shapes shape within.acc node)) := by
  have checked : check graph shapes (maxDepth - depth) shape [node] = [] ↔
      Satisfies graph shapes shape within.acc node :=
    check_eq_nil_iff_satisfies within (Nat.le_sub_of_add_le' deepEnough)
  refine ⟨checked, fun nested => ?_⟩
  have levels : maxDepth - (depth - 1) = maxDepth - depth + 1 := by omega
  rw [levels, conforms_succ_iff listed, checked]

def ex (name : String) : Iri :=
  ⟨"http://ex.org/" ++ name⟩

/-- The nodes that know somebody. -/
def acquainted : Shape where
  id := .iri ⟨"http://ex.org/Acquainted"⟩
  targets := []
  path := some (.predicate ⟨"http://ex.org/knows"⟩)
  constraints := [.minCount 1]
  properties := []
  severity := .violation
  message := none
  name := none
  deactivated := false

/-- The nodes that know nobody. -/
def stranger : Shape :=
  { acquainted with
    id := .iri ⟨"http://ex.org/Stranger"⟩
    path := none
    constraints := [.not acquainted.id] }

theorem check_iff_satisfies_stranger :
    let shapes : ShapesGraph := ⟨[stranger, acquainted], []⟩
    let graph := Graph.ofList
      [⟨.iri ⟨"http://ex.org/alice"⟩, ⟨"http://ex.org/knows"⟩, .iri ⟨"http://ex.org/bob"⟩⟩]
    ∃ within : ChainsWithin shapes 1 stranger,
      Satisfies graph shapes stranger within.acc (.iri ⟨"http://ex.org/bob"⟩) ∧
      ¬ Satisfies graph shapes stranger within.acc (.iri ⟨"http://ex.org/alice"⟩) := by
  intro shapes graph
  have listed : shapes.get? stranger.id = some stranger := by rfl
  have target : shapes.get? acquainted.id = some acquainted := by rfl
  have within : ChainsWithin shapes 1 stranger := by
    rintro (- | - | length) chain
    · exact Nat.zero_le 1
    · exact Nat.le_refl 1
    · obtain ⟨referenced, ⟨id, mentioned, found⟩, _, ⟨id', mentioned', -⟩, -⟩ := chain
      obtain rfl : id = acquainted.id := by simpa [references, stranger, acquainted,
        Constraint.references] using mentioned
      obtain rfl := Option.some.inj (target.symm.trans found)
      simp [references, acquainted, Constraint.references] at mentioned'
  have decided := check_iff_satisfies listed within (Nat.le_refl 2 : 1 + 1 ≤ 2) graph
  refine ⟨within, (decided _).1.mp rfl, fun satisfied => ?_⟩
  cases (decided _).1.mpr satisfied

end RdfPipeline.Shape
