import RdfPipeline.Pipeline.Json
import RdfPipeline.Proofs.Json.RoundTrip
import RdfPipeline.Proofs.Value.Conversion

/-!
# Pipelines read back from their texts

The document of a pipeline is read as the pipeline, and its text as that document under the layout of
pipelines. So a pipeline with finite floats comes back from its text, as far as the texts of its
floats denote these floats and it is not nested too deeply.
-/

set_option autoImplicit false

namespace RdfPipeline.Pipeline

/-! ## Floats and dictionaries of pipelines -/

def Position.floats (position : Position) : List Binary64 :=
  [position.x, position.y]

def Step.floats (step : Step) : List Binary64 :=
  (Value.map step.parameters).floats ++ step.position.floats

/-- All floats in a pipeline: of its variables, and of the parameters and positions of its steps. -/
def floats (pipeline : Pipeline) : List Binary64 :=
  pipeline.steps.flatMap Step.floats ++ (Value.map pipeline.bindings).floats

/-- The variables and the parameters are dictionaries, as are the maps in them. -/
structure InOrder (pipeline : Pipeline) : Prop where
  parameters : ∀ step ∈ pipeline.steps, (Value.map step.parameters).InOrder
  bindings : (Value.map pipeline.bindings).InOrder

theorem floats_of_mem_steps {pipeline : Pipeline} {step : Step} (member : step ∈ pipeline.steps) :
    step.floats ⊆ pipeline.floats := by
  intro x inside
  exact List.mem_append_left _ (List.mem_flatMap.mpr ⟨step, member, inside⟩)

theorem floats_of_bindings (pipeline : Pipeline) :
    (Value.map pipeline.bindings).floats ⊆ pipeline.floats :=
  List.subset_append_right _ _

/-! ## Documents -/

/-- An object that has all the fields, each once, gives them as they are. -/
theorem fields?_object {names : List String} {members : List (String × Json)}
    (named : members.map (·.1) = names) (distinct : names.Nodup) :
    fields? names (.object members) = some members := by
  have all : members.filter (fun member => names.contains member.1) = members := by
    apply List.filter_eq_self.mpr
    intro member inObject
    rw [List.contains_iff_mem, ← named]
    exact List.mem_map_of_mem inObject
  simp only [fields?, all]
  rw [if_pos (named ▸ distinct)]

theorem readCoordinate?_toJson {x : Binary64} (finite : x.isFinite = true) :
    readCoordinate? (Value.float x).toJson = some x := by
  rw [Value.toJson, if_pos finite]
  rfl

theorem Position.ofJson?_toJson {position : Position}
    (finite : ∀ x ∈ position.floats, x.isFinite = true) :
    Position.ofJson? position.toJson = some position := by
  have x := readCoordinate?_toJson (finite position.x (by simp [floats]))
  have y := readCoordinate?_toJson (finite position.y (by simp [floats]))
  rw [ofJson?, toJson, fields?_object (by rfl) (by decide)]
  simp only [requiredField?, List.lookup_cons, String.reduceBEq, Option.bind_eq_bind,
    Option.bind_some, x, y]

theorem readList?_map {α : Type} {read : Json → Option α} {write : α → Json} {items : List α}
    (each : ∀ item ∈ items, read (write item) = some item) :
    readList? read (.array (items.map write)) = some items := by
  rw [readList?]
  induction items with
  | nil => rfl
  | cons item rest ih =>
      obtain ⟨first, others⟩ := List.forall_mem_cons.mp each
      rw [List.map_cons, List.mapM_cons, first, ih others]
      rfl

theorem readList?_textsToJson (texts : List String) :
    readList? readText? (textsToJson texts) = some texts :=
  readList?_map fun _ _ => rfl

theorem readBindings?_toJson {dict : Dict Value} (inOrder : (Value.map dict).InOrder)
    (finite : ∀ x ∈ (Value.map dict).floats, x.isFinite = true) :
    readBindings? (Value.map dict).toJson = some dict := by
  have read := Value.read?_toJson inOrder finite
  rw [Value.toJson, Value.read?, Option.map_eq_some_iff] at read
  obtain ⟨back, read, same⟩ := read
  rw [Value.toJson, readBindings?, read, Value.map.inj same]

theorem Step.ofJson?_toJson {step : Step} (inOrder : (Value.map step.parameters).InOrder)
    (finite : ∀ x ∈ step.floats, x.isFinite = true) :
    Step.ofJson? step.toJson = some step := by
  have parameters := readBindings?_toJson inOrder fun x inside =>
    finite x (List.mem_append_left _ inside)
  have position := Position.ofJson?_toJson fun x inside =>
    finite x (List.mem_append_right _ inside)
  rw [ofJson?, toJson, fields?_object (by rfl) (by decide)]
  simp only [requiredField?, optionalField?, List.lookup_cons, String.reduceBEq,
    Option.bind_eq_bind, Option.bind_some, readText?, readList?_textsToJson, parameters, position]

theorem ofJson?_toJson {pipeline : Pipeline} (inOrder : pipeline.InOrder)
    (finite : ∀ x ∈ pipeline.floats, x.isFinite = true) :
    ofJson? pipeline.toJson = some pipeline := by
  have steps : readList? Step.ofJson? (.array (pipeline.steps.map Step.toJson)) =
      some pipeline.steps := by
    apply readList?_map
    intro step member
    exact Step.ofJson?_toJson (inOrder.parameters step member) fun x inside =>
      finite x (floats_of_mem_steps member inside)
  have bindings := readBindings?_toJson inOrder.bindings fun x inside =>
    finite x (floats_of_bindings pipeline inside)
  rw [ofJson?, toJson, fields?_object (by rfl) (by decide)]
  simp only [requiredField?, optionalField?, List.lookup_cons, String.reduceBEq,
    Option.bind_eq_bind, Option.bind_some, readText?, steps, bindings]

/-! ## Dictionaries -/

theorem inOrder_named (id name : String) : (named id name).InOrder :=
  ⟨fun _ none => absurd none List.not_mem_nil, .empty⟩

theorem InOrder.withStep {pipeline : Pipeline} {step : Step} (inOrder : pipeline.InOrder)
    (parameters : (Value.map step.parameters).InOrder) : (pipeline.withStep step).InOrder where
  parameters other member := by
    cases List.mem_append.mp member with
    | inl before => exact inOrder.parameters other before
    | inr added => exact List.mem_singleton.mp added ▸ parameters
  bindings := inOrder.bindings

theorem InOrder.withVariable {pipeline : Pipeline} {value : Value} (inOrder : pipeline.InOrder)
    (name : String) (added : value.InOrder) : (pipeline.withVariable name value).InOrder :=
  ⟨inOrder.parameters, inOrder.bindings.insert name added⟩

theorem exists_of_optionalField? {α : Type} {fields : List (String × Json)} {name : String}
    {default value : α} {read : Json → Option α}
    (found : optionalField? fields name default read = some value) :
    value = default ∨ ∃ document, read document = some value := by
  rw [optionalField?] at found
  split at found
  next document _ => exact .inr ⟨document, found⟩
  next => exact .inl (Option.some.inj found).symm

theorem exists_of_readList? {α : Type} {read : Json → Option α} {document : Json} {values : List α}
    (found : readList? read document = some values) :
    ∀ value ∈ values, ∃ item, read item = some value := by
  cases document with
  | array items =>
      rw [readList?] at found
      induction items generalizing values with
      | nil =>
          obtain rfl := Option.some.inj found
          exact fun _ none => absurd none List.not_mem_nil
      | cons item rest ih =>
          rw [List.mapM_cons] at found
          obtain ⟨first, here, later⟩ := Option.bind_eq_some_iff.mp found
          obtain ⟨others, there, all⟩ := Option.bind_eq_some_iff.mp later
          obtain rfl := Option.some.inj all
          exact List.forall_mem_cons.mpr ⟨⟨item, here⟩, ih there⟩
  | _ => cases found

theorem inOrder_of_readBindings? {document : Json} {dict : Dict Value}
    (read : readBindings? document = some dict) : (Value.map dict).InOrder := by
  cases document with
  | object members =>
      have whole : Value.read? (.object members) = some (.map dict) :=
        congrArg (Option.map Value.map) read
      exact Value.inOrder_of_read? whole
  | _ => cases read

theorem inOrder_of_field {fields : List (String × Json)} {name : String} {dict : Dict Value}
    (found : optionalField? fields name [] readBindings? = some dict) :
    (Value.map dict).InOrder := by
  cases exists_of_optionalField? found with
  | inl none => exact none ▸ .empty
  | inr document =>
      obtain ⟨document, read⟩ := document
      exact inOrder_of_readBindings? read

theorem Step.inOrder_of_ofJson? {document : Json} {step : Step}
    (read : Step.ofJson? document = some step) : (Value.map step.parameters).InOrder := by
  simp only [ofJson?, bind, Option.bind_eq_some_iff, Option.some.injEq] at read
  obtain ⟨fields, -, id, -, operation, -, name, -, parameters, found, -, -, -, -, -, -, rfl⟩ := read
  exact inOrder_of_field found

/-- What is read are pipelines whose variables and parameters are dictionaries. -/
theorem inOrder_of_parse {text : String} {pipeline : Pipeline}
    (parsed : parse text = .ok pipeline) : pipeline.InOrder := by
  rw [parse] at parsed
  split at parsed
  next read =>
    obtain rfl := Except.ok.inj parsed
    obtain ⟨document, -, read⟩ := Option.bind_eq_some_iff.mp read
    simp only [ofJson?, bind, Option.bind_eq_some_iff, Option.some.injEq] at read
    obtain ⟨fields, -, id, -, name, -, steps, listed, bindings, found, rfl⟩ := read
    constructor
    · intro step member
      cases exists_of_optionalField? listed with
      | inl none => cases none ▸ member
      | inr document =>
          obtain ⟨document, read⟩ := document
          obtain ⟨item, read⟩ := exists_of_readList? read step member
          exact Step.inOrder_of_ofJson? read
    · exact inOrder_of_field found
  next => cases parsed

/-! ## Texts -/

theorem readsBack_toJson {value : Value}
    (faithful : ∀ x ∈ value.floats, (Json.Number.float x).IsFaithful) :
    Json.ReadsBack value.toJson :=
  Json.readsBack fun x inside => faithful x (Value.mem_floats_of_mem_toJson inside)

theorem readsBack_textsToJson (texts : List String) : Json.ReadsBack (textsToJson texts) := by
  apply Json.ReadsBack.array
  intro item member
  obtain ⟨text, -, rfl⟩ := List.mem_map.mp member
  exact .string text

theorem Position.readsUnder_toJson {position : Position}
    (faithful : ∀ x ∈ position.floats, (Json.Number.float x).IsFaithful) :
    Json.ReadsUnder layout position.toJson := by
  have each : ∀ x ∈ position.floats, Json.ReadsBack (Value.float x).toJson := by
    intro x inside
    apply readsBack_toJson
    intro y same
    exact List.mem_singleton.mp same ▸ faithful x inside
  have x := each position.x (by simp [floats])
  have y := each position.y (by simp [floats])
  apply Json.ReadsUnder.fields
  simp only [List.forall_mem_cons]
  exact ⟨⟨_, rfl, x.underWhole⟩, ⟨_, rfl, y.underWhole⟩, fun _ none => absurd none List.not_mem_nil⟩

theorem Step.readsUnder_toJson {step : Step}
    (faithful : ∀ x ∈ step.floats, (Json.Number.float x).IsFaithful) :
    Json.ReadsUnder layout step.toJson := by
  have parameters : Json.ReadsBack (Value.map step.parameters).toJson :=
    readsBack_toJson fun x inside => faithful x (List.mem_append_left _ inside)
  have position : Json.ReadsUnder Position.layout step.position.toJson :=
    Position.readsUnder_toJson fun x inside => faithful x (List.mem_append_right _ inside)
  apply Json.ReadsUnder.fields
  simp only [List.forall_mem_cons]
  exact
    ⟨⟨_, rfl, (Json.ReadsBack.string step.id).underWhole⟩,
      ⟨_, rfl, (Json.ReadsBack.string step.operation).underWhole⟩,
      ⟨_, rfl, (Json.ReadsBack.string step.name).underWhole⟩,
      ⟨_, rfl, parameters.underWhole⟩,
      ⟨_, rfl, (readsBack_textsToJson step.inputs).underWhole⟩,
      ⟨_, rfl, (readsBack_textsToJson step.outputs).underWhole⟩,
      ⟨_, rfl, position⟩, fun _ none => absurd none List.not_mem_nil⟩

theorem readsUnder_toJson {pipeline : Pipeline}
    (faithful : ∀ x ∈ pipeline.floats, (Json.Number.float x).IsFaithful) :
    Json.ReadsUnder layout pipeline.toJson := by
  have steps : Json.ReadsUnder (.items Step.layout) (.array (pipeline.steps.map Step.toJson)) := by
    apply Json.ReadsUnder.items
    intro document member
    obtain ⟨step, inSteps, rfl⟩ := List.mem_map.mp member
    exact Step.readsUnder_toJson fun x inside =>
      faithful x (floats_of_mem_steps inSteps inside)
  have bindings : Json.ReadsBack (Value.map pipeline.bindings).toJson :=
    readsBack_toJson fun x inside => faithful x (floats_of_bindings pipeline inside)
  apply Json.ReadsUnder.fields
  simp only [List.forall_mem_cons]
  exact
    ⟨⟨_, rfl, (Json.ReadsBack.string pipeline.id).underWhole⟩,
      ⟨_, rfl, (Json.ReadsBack.string pipeline.name).underWhole⟩,
      ⟨_, rfl, steps⟩, ⟨_, rfl, bindings.underWhole⟩, fun _ none => absurd none List.not_mem_nil⟩

/-! ## Equality -/

theorem equalBindings_self {dict : Dict Value}
    (finite : ∀ x ∈ (Value.map dict).floats, x.isFinite = true) :
    Value.equalEntries dict dict = true :=
  Value.equals_self fun x inside => Binary64.ne_nan_of_isFinite (finite x inside)

theorem Step.equals_self {step : Step} (finite : ∀ x ∈ step.floats, x.isFinite = true) :
    step.equals step = true := by
  have parameters := equalBindings_self fun x inside =>
    finite x (List.mem_append_left _ inside)
  have coordinate : ∀ x ∈ step.position.floats, x.numericallyEquals x = true := by
    intro x inside
    exact Binary64.numericallyEquals_self
      (Binary64.ne_nan_of_isFinite (finite x (List.mem_append_right _ inside)))
  have x := coordinate step.position.x (by simp [Position.floats])
  have y := coordinate step.position.y (by simp [Position.floats])
  simp [equals, Position.equals, parameters, x, y]

theorem equalSteps_self {steps : List Step} (each : ∀ step ∈ steps, step.equals step = true) :
    equalSteps steps steps = true := by
  induction steps with
  | nil => rfl
  | cons step rest ih =>
      obtain ⟨first, others⟩ := List.forall_mem_cons.mp each
      rw [equalSteps, first, ih others]
      rfl

theorem equals_self {pipeline : Pipeline} (finite : ∀ x ∈ pipeline.floats, x.isFinite = true) :
    pipeline.equals pipeline = true := by
  have steps : equalSteps pipeline.steps pipeline.steps = true := by
    apply equalSteps_self
    intro step member
    exact Step.equals_self fun x inside => finite x (floats_of_mem_steps member inside)
  have bindings := equalBindings_self fun x inside =>
    finite x (floats_of_bindings pipeline inside)
  simp [equals, steps, bindings]

/-! ## Round trip -/

/-- A pipeline comes back from its text as it is, and as an equal one, whatever its steps, its names
and the values in it, as long as its floats are finite. -/
theorem parse_serialize (pipeline : Pipeline) (inOrder : pipeline.InOrder)
    (finite : ∀ x ∈ pipeline.floats, x.isFinite = true)
    (faithful : ∀ x ∈ pipeline.floats, x.isFinite = true → (Json.Number.float x).IsFaithful)
    (shallow : pipeline.toJson.depth ≤ Json.depthLimit) :
    parse pipeline.serialize = .ok pipeline ∧ pipeline.equals pipeline = true := by
  have under := readsUnder_toJson fun x inside => faithful x inside (finite x inside)
  have document : Json.parseUnder? layout pipeline.serialize = some pipeline.toJson :=
    Json.parseUnder?_print under shallow
  constructor
  · -- The text gives back the document, and the document the pipeline.
    rw [parse, document, Option.bind_some, ofJson?_toJson inOrder finite]
  · exact equals_self finite

/-- Settings with every kind of value, among them an integer and a float that are equal as numbers. -/
def soundings : Value :=
  .map (Dict.ofList
    [ ("depths", .list [.integer 3, .float (.ofInt 3), .float (.ofDecimal true 25 (-1)), .null]),
      ("verified", .bool true) ])

/-- Two connected steps, of which one stands at a negative zero. -/
def survey : Pipeline :=
  let read := ((Step.of "read" "csv-source").withParameter "content" (.text "site\n\"A\"\n")).placedAt
    ⟨.ofInt 120, .zero true⟩
  let map := (((Step.of "map" "rdf-mapping").withParameter "soundings" soundings).withInputs
    ["read"]).named "Map sites"
  (((named "survey" "Survey").withStep read).withStep map).withVariable "factor"
    (.float (.ofDecimal false 1 300))

theorem inOrder_soundings : soundings.InOrder := by
  apply Value.InOrder.empty.insertAll
  simp only [List.forall_mem_cons]
  refine ⟨.list ?_, .bool, fun _ none => absurd none List.not_mem_nil⟩
  simp only [List.forall_mem_cons]
  exact ⟨.integer, .float, .float, .null, fun _ none => absurd none List.not_mem_nil⟩

theorem parse_serialize_survey :
    survey.InOrder ∧ (∀ x ∈ survey.floats, x.isFinite = true) ∧
      (∀ x ∈ survey.floats, x.isFinite = true → (Json.Number.float x).IsFaithful) ∧
      survey.toJson.depth ≤ Json.depthLimit ∧
      parse survey.serialize = .ok survey ∧ survey.equals survey = true := by
  have inOrder : survey.InOrder :=
    (((inOrder_named _ _).withStep (Value.InOrder.empty.insert _ .text)).withStep
      (Value.InOrder.empty.insert _ inOrder_soundings)).withVariable _ .float
  have finite : ∀ x ∈ survey.floats, x.isFinite = true := by decide +kernel
  have faithful : ∀ x ∈ survey.floats, x.isFinite = true → (Json.Number.float x).IsFaithful := by
    decide +kernel
  have shallow : survey.toJson.depth ≤ Json.depthLimit := by decide +kernel
  exact ⟨inOrder, finite, faithful, shallow, parse_serialize survey inOrder finite faithful shallow⟩

end RdfPipeline.Pipeline
