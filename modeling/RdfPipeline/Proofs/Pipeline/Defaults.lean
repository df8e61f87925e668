import RdfPipeline.Pipeline.Parameters
import RdfPipeline.Proofs.Dict

/-!
# Defaults of parameters

Specifications are gone through in order, and each one sees the defaults that those before it have
filled in. What a parameter becomes hangs on the defaults of its own name alone: a value stays, a gap
takes the first default that is not null, or null if the name has null defaults only. After that no
specification has anything left to fill.
-/

set_option autoImplicit false

namespace RdfPipeline

theorem Value.eq_null_of_isNull {value : Value} (null : value.isNull = true) : value = .null := by
  cases value with
  | null => rfl
  | _ => cases null

namespace Parameters

variable {parameters : Parameters} {specs : List ParameterSpec}

/-! ## One name -/

/-- Null counts as no value. -/
def isGap (current : Option Value) : Bool :=
  (current.map Value.isNull).getD true

theorem isGap_iff {current : Option Value} :
    isGap current = true ↔ current = none ∨ current = some .null := by
  rcases current with _ | _ | _ <;> simp [isGap, Value.isNull]

theorem isGap_eq_false_iff {current : Option Value} :
    isGap current = false ↔ ∃ value, current = some value ∧ value.isNull = false := by
  cases current <;> simp [isGap]

/-- What a default makes of what a parameter has. -/
def fillValue (current : Option Value) (default : Value) : Option Value :=
  if isGap current then some default else current

/-- The defaults that the specifications have for a name, in order. -/
def defaultsOf (specs : List ParameterSpec) (name : String) : List Value :=
  specs.filterMap fun spec => if spec.name = name then spec.default else none

theorem defaultsOf_cons (spec : ParameterSpec) (specs : List ParameterSpec) (name : String) :
    defaultsOf (spec :: specs) name =
      (if spec.name = name then spec.default else none).toList ++ defaultsOf specs name := by
  rw [defaultsOf, List.filterMap_cons]
  cases (if spec.name = name then spec.default else none) <;> rfl

/-- What one specification can do to the parameters. -/
theorem fillDefault_cases (parameters : Parameters) (spec : ParameterSpec) :
    (spec.default = none ∧ fillDefault parameters spec = parameters) ∨
    ∃ default, spec.default = some default ∧
      ((isGap (Dict.get? spec.name parameters) = true ∧
          fillDefault parameters spec = Dict.insert spec.name default parameters) ∨
        (isGap (Dict.get? spec.name parameters) = false ∧
          fillDefault parameters spec = parameters)) := by
  rw [fillDefault]
  cases spec.default with
  | none => exact .inl ⟨rfl, rfl⟩
  | some default =>
      refine .inr ⟨default, rfl, ?_⟩
      cases gap : isGap (Dict.get? spec.name parameters) with
      | true => exact .inl ⟨rfl, if_pos gap⟩
      | false => exact .inr ⟨rfl, if_neg (ne_true_of_eq_false gap)⟩

theorem get?_fillDefault (name : String) (parameters : Parameters) (spec : ParameterSpec) :
    Dict.get? name (fillDefault parameters spec) =
      (if spec.name = name then spec.default else none).toList.foldl fillValue
        (Dict.get? name parameters) := by
  rcases fillDefault_cases parameters spec with
    ⟨none, same⟩ | ⟨default, some, ⟨gap, filled⟩ | ⟨value, same⟩⟩
  · rw [same, none, ite_self]
    rfl
  · rw [filled, some, Dict.get?_insert]
    by_cases isName : spec.name = name
    · subst isName
      simp [fillValue, gap]
    · simp [isName, Ne.symm isName]
  · rw [same, some]
    by_cases isName : spec.name = name
    · subst isName
      simp [fillValue, value]
    · simp [isName]

/-- Other names have no part in what a parameter becomes. -/
theorem get?_applyDefaults (name : String) (parameters : Parameters) (specs : List ParameterSpec) :
    Dict.get? name (applyDefaults parameters specs) =
      (defaultsOf specs name).foldl fillValue (Dict.get? name parameters) := by
  induction specs generalizing parameters with
  | nil => rfl
  | cons spec rest ih =>
      rw [defaultsOf_cons, List.foldl_append, ← get?_fillDefault]
      exact ih _

theorem foldl_fillValue_of_value {value : Value} (notNull : value.isNull = false)
    (defaults : List Value) : defaults.foldl fillValue (some value) = some value := by
  induction defaults with
  | nil => rfl
  | cons default rest ih =>
      have kept : fillValue (some value) default = some value := by simp [fillValue, isGap, notNull]
      rw [List.foldl_cons, kept, ih]

/-- A null default leaves a gap for the defaults behind it. -/
theorem foldl_fillValue_of_gap {current : Option Value} (gap : isGap current = true)
    (defaults : List Value) :
    defaults.foldl fillValue current = (defaults.find? fun default => !default.isNull).or
      (if defaults = [] then current else some .null) := by
  induction defaults generalizing current with
  | nil => rfl
  | cons default rest ih =>
      have filled : fillValue current default = some default := by rw [fillValue, if_pos gap]
      rw [List.foldl_cons, filled, List.find?_cons, if_neg (List.cons_ne_nil default rest)]
      cases null : default.isNull with
      | false => exact foldl_fillValue_of_value null rest
      | true =>
          have stillGap : isGap (some default) = true := null
          rw [ih stillGap, Value.eq_null_of_isNull null, ite_self]
          rfl

theorem isSome_foldl_fillValue (current : Option Value) (defaults : List Value) :
    (defaults.foldl fillValue current).isSome = true ↔ current.isSome = true ∨ defaults ≠ [] := by
  induction defaults generalizing current with
  | nil => simp
  | cons default rest ih =>
      have filled : (fillValue current default).isSome = true := by
        rw [fillValue]
        split
        next => rfl
        next value =>
          obtain ⟨value, rfl, -⟩ := isGap_eq_false_iff.mp (eq_false_of_ne_true value)
          rfl
      simp [ih, filled]

/-! ## All names -/

theorem sorted_applyDefaults (sorted : parameters.Sorted) (specs : List ParameterSpec) :
    (applyDefaults parameters specs).Sorted := by
  induction specs generalizing parameters with
  | nil => exact sorted
  | cons spec rest ih =>
      refine ih ?_
      rcases fillDefault_cases parameters spec with
        ⟨-, same⟩ | ⟨default, -, ⟨-, filled⟩ | ⟨-, same⟩⟩
      · rwa [same]
      · rw [filled]
        exact sorted.insert spec.name default
      · rwa [same]

theorem mem_defaultsOf {spec : ParameterSpec} {default : Value} (member : spec ∈ specs)
    (declared : spec.default = some default) : default ∈ defaultsOf specs spec.name :=
  List.mem_filterMap.mpr ⟨spec, member, by rw [if_pos rfl, declared]⟩

theorem defaultsOf_eq_nil_iff {name : String} :
    defaultsOf specs name = [] ↔ ∀ spec ∈ specs, spec.name = name → spec.default = none := by
  simp [defaultsOf, List.filterMap_eq_nil_iff]

theorem get?_applyDefaults_of_value {name : String} {value : Value}
    (found : Dict.get? name parameters = some value) (notNull : value.isNull = false) :
    Dict.get? name (applyDefaults parameters specs) = some value := by
  rw [get?_applyDefaults, found, foldl_fillValue_of_value notNull]

theorem get?_applyDefaults_of_gap {name : String} (gap : isGap (Dict.get? name parameters) = true) :
    Dict.get? name (applyDefaults parameters specs) =
      ((defaultsOf specs name).find? fun default => !default.isNull).or
        (if defaultsOf specs name = [] then Dict.get? name parameters else some .null) := by
  rw [get?_applyDefaults, foldl_fillValue_of_gap gap]

/-- A gap that is left has null defaults only, and is null if it has any. -/
theorem null_of_gap_left {name : String} {default : Value} (member : default ∈ defaultsOf specs name)
    (left : isGap (Dict.get? name (applyDefaults parameters specs)) = true) :
    default = .null ∧ Dict.get? name (applyDefaults parameters specs) = some .null := by
  have gap : isGap (Dict.get? name parameters) = true := by
    by_contra noGap
    obtain ⟨value, found, notNull⟩ := isGap_eq_false_iff.mp (eq_false_of_ne_true noGap)
    rw [get?_applyDefaults_of_value found notNull, isGap, Option.map_some, notNull] at left
    cases left
  rw [get?_applyDefaults_of_gap gap] at left ⊢
  cases found : (defaultsOf specs name).find? fun default => !default.isNull with
  | some value =>
      have notNull := List.find?_some found
      rw [found, Option.some_or] at left
      simp [show value.isNull = true from left] at notNull
  | none =>
      have null : default.isNull = true := by simpa using List.find?_eq_none.mp found default member
      rw [Option.none_or, if_neg (List.ne_nil_of_mem member)]
      exact ⟨Value.eq_null_of_isNull null, rfl⟩

/-- After all defaults no specification has anything left to fill. -/
theorem fillDefault_applyDefaults (sorted : parameters.Sorted) {spec : ParameterSpec}
    (member : spec ∈ specs) :
    fillDefault (applyDefaults parameters specs) spec = applyDefaults parameters specs := by
  rcases fillDefault_cases (applyDefaults parameters specs) spec with
    ⟨-, same⟩ | ⟨default, declared, ⟨left, filled⟩ | ⟨-, same⟩⟩
  · exact same
  · obtain ⟨rfl, found⟩ := null_of_gap_left (mem_defaultsOf member declared) left
    rw [filled]
    exact (sorted_applyDefaults sorted specs).insert_eq_self found
  · exact same

theorem applyDefaults_eq_self
    (filled : ∀ spec ∈ specs, fillDefault parameters spec = parameters) :
    applyDefaults parameters specs = parameters := by
  induction specs with
  | nil => rfl
  | cons spec rest ih =>
      obtain ⟨first, behind⟩ := List.forall_mem_cons.mp filled
      have step : applyDefaults parameters (spec :: rest) =
          applyDefaults (fillDefault parameters spec) rest := rfl
      rw [step, first, ih behind]

theorem mem_keys_applyDefaults_iff {name : String} :
    name ∈ Dict.keys (applyDefaults parameters specs) ↔
      name ∈ Dict.keys parameters ∨
        ∃ spec ∈ specs, spec.name = name ∧ spec.default.isSome = true := by
  have declared : defaultsOf specs name ≠ [] ↔
      ∃ spec ∈ specs, spec.name = name ∧ spec.default.isSome = true := by
    rw [Ne, defaultsOf_eq_nil_iff]
    simp [Option.isSome_iff_ne_none]
  rw [Dict.mem_keys_iff, Dict.mem_keys_iff, ← Option.isSome_iff_exists,
    ← Option.isSome_iff_exists, get?_applyDefaults, isSome_foldl_fillValue, declared]

/-- Defaults fill gaps and leave values as they are. A gap takes the first default of its name that
is not null, is null if the name has null defaults only, and stays as it is if it has none. The names
are those from before and those with a default, and a second run changes nothing. -/
theorem applyDefaults_fills_gaps (parameters : Parameters) (specs : List ParameterSpec) :
    (∀ name value, Dict.get? name parameters = some value → value ≠ .null →
      Dict.get? name (applyDefaults parameters specs) = some value) ∧
    (∀ name, Dict.get? name parameters = none ∨ Dict.get? name parameters = some .null →
      (∀ value, ((defaultsOf specs name).find? fun default => !default.isNull) = some value →
        Dict.get? name (applyDefaults parameters specs) = some value) ∧
      (defaultsOf specs name ≠ [] → (∀ default ∈ defaultsOf specs name, default = .null) →
        Dict.get? name (applyDefaults parameters specs) = some .null) ∧
      (defaultsOf specs name = [] →
        Dict.get? name (applyDefaults parameters specs) = Dict.get? name parameters)) ∧
    (∀ name, name ∈ Dict.keys (applyDefaults parameters specs) ↔
      name ∈ Dict.keys parameters ∨
        ∃ spec ∈ specs, spec.name = name ∧ spec.default.isSome = true) ∧
    (parameters.Sorted → (applyDefaults parameters specs).Sorted ∧
      applyDefaults (applyDefaults parameters specs) specs = applyDefaults parameters specs) := by
  refine ⟨fun name value found notNull => ?kept, fun name missing => ?gaps,
    fun name => mem_keys_applyDefaults_iff,
    fun sorted => ⟨sorted_applyDefaults sorted specs, ?again⟩⟩
  case kept =>
    refine get?_applyDefaults_of_value found (eq_false_of_ne_true fun null => ?_)
    exact notNull (Value.eq_null_of_isNull null)
  case gaps =>
    rw [get?_applyDefaults_of_gap (isGap_iff.mpr missing)]
    refine ⟨fun value found => by rw [found, Option.some_or], fun some null => ?_, fun none => ?_⟩
    · have noValue : ((defaultsOf specs name).find? fun default => !default.isNull) = none := by
        rw [List.find?_eq_none]
        intro default member
        simp [null default member, Value.isNull]
      rw [noValue, Option.none_or, if_neg some]
    · rw [none, List.find?_nil, Option.none_or, if_pos rfl]
  case again => exact applyDefaults_eq_self fun spec => fillDefault_applyDefaults sorted

/-! Null among the parameters and among the defaults, and a name that is specified twice. -/

def readerParameters : Parameters :=
  [("delimiter", .null), ("quote", .text "'")]

def readerSpecs : List ParameterSpec :=
  [ (ParameterSpec.optional "delimiter" .string "").withDefault .null,
    (ParameterSpec.optional "delimiter" .string "").withDefault (.text ";"),
    (ParameterSpec.optional "delimiter" .string "").withDefault (.text ","),
    (ParameterSpec.optional "quote" .string "").withDefault (.text "\""),
    (ParameterSpec.optional "header" .boolean "").withDefault .null,
    ParameterSpec.mandatory "path" .string "" ]

theorem applyDefaults_fills_gaps_reader :
    Dict.get? "quote" (applyDefaults readerParameters readerSpecs) = some (.text "'") ∧
      Dict.get? "delimiter" (applyDefaults readerParameters readerSpecs) = some (.text ";") ∧
      Dict.get? "header" (applyDefaults readerParameters readerSpecs) = some .null ∧
      Dict.get? "path" (applyDefaults readerParameters readerSpecs) = none ∧
      readerParameters.Sorted ∧
      applyDefaults (applyDefaults readerParameters readerSpecs) readerSpecs =
        applyDefaults readerParameters readerSpecs := by
  obtain ⟨kept, gaps, -, again⟩ := applyDefaults_fills_gaps readerParameters readerSpecs
  have sorted : readerParameters.Sorted := by
    unfold Dict.Sorted
    decide
  have nullOnly : defaultsOf readerSpecs "header" = [.null] := rfl
  refine ⟨kept "quote" _ rfl nofun, (gaps "delimiter" (.inr rfl)).1 _ rfl,
    (gaps "header" (.inl rfl)).2.1 ?_ ?_, (gaps "path" (.inl rfl)).2.2 rfl, sorted,
    (again sorted).2⟩
  · rw [nullOnly]
    exact List.cons_ne_nil _ _
  · rw [nullOnly]
    exact List.forall_mem_singleton.mpr rfl

end Parameters

end RdfPipeline
