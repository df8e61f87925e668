import RdfPipeline.Proofs.Pipeline.Substitution
import RdfPipeline.Proofs.Text.Blank
import RdfPipeline.Proofs.Value.Structure

/-!
# What parameters take from the environment

A text asks the environment for one name at most: for the identifier that the whole text refers to,
if no variable has it, or for the one that the whole text refers to once variables are replaced. Its
resolution depends on nothing else of the environment. Resolving a tree of parameters resolves its
texts, each in its place, and leaves all else of the tree as it is.
-/

set_option autoImplicit false

namespace RdfPipeline

namespace Parameters

/-! ## Identifiers -/

section Characters

variable {c : Char}

theorem code_of_isNameChar (named : (isNameStart c || Text.isDigit c) = true) :
    48 ≤ c.toNat ∧ c.toNat ≤ 57 ∨ 65 ≤ c.toNat ∧ c.toNat ≤ 90 ∨ c.toNat = 95 ∨
      97 ≤ c.toNat ∧ c.toNat ≤ 122 := by
  rcases Bool.or_eq_true_iff.mp named with start | digit
  · simp only [isNameStart, Bool.or_eq_true, Bool.and_eq_true, decide_eq_true_eq, beq_iff_eq,
      Char.le_def, UInt32.le_iff_toNat_le] at start
    rcases start with (lower | upper) | rfl
    · exact .inr (.inr (.inr lower))
    · exact .inr (.inl upper)
    · exact .inr (.inr (.inl rfl))
  · refine .inl ?_
    simpa [Text.isDigit, Text.digitValue?, Char.le_def, UInt32.le_iff_toNat_le] using digit

theorem not_isBlank_of_isNameChar (named : (isNameStart c || Text.isDigit c) = true) :
    Text.isBlank c = false := by
  have code := code_of_isNameChar named
  exact Text.not_isBlank_of_graphic (by omega) (by omega)

theorem ne_closing_of_isNameChar (named : (isNameStart c || Text.isDigit c) = true) :
    c ≠ '\x7d' := by
  rintro rfl
  exact absurd named (by decide)

theorem isNameChar_of_mem {name : List Char} (identifier : isIdentifier name = true)
    (member : c ∈ name) : (isNameStart c || Text.isDigit c) = true := by
  cases name with
  | nil => cases member
  | cons first rest =>
      obtain ⟨start, others⟩ := Bool.and_eq_true_iff.mp identifier
      cases member with
      | head => rw [start, Bool.true_or]
      | tail _ later => exact List.all_eq_true.mp others c later

end Characters

theorem trimChars_of_isIdentifier {name : List Char} (identifier : isIdentifier name = true) :
    Text.trimChars name = name := by
  have notBlank : ∀ c ∈ name, Text.isBlank c = false := fun c member =>
    not_isBlank_of_isNameChar (isNameChar_of_mem identifier member)
  have trimmed : Text.IsTrimmed name :=
    ⟨fun c first => notBlank c (List.mem_of_mem_head? first),
      fun c last => notBlank c (List.mem_of_mem_getLast? last)⟩
  exact trimmed.trimChars_eq

/-! ## References as a whole -/

/-- The text is one reference to an identifier and nothing else. -/
structure RefersTo (text name : String) : Prop where
  written : text = "$\x7b" ++ name ++ "\x7d"
  identifier : isIdentifier name.toList = true

namespace RefersTo

variable {text name : String}

theorem toList_eq (refers : RefersTo text name) :
    text.toList = '$' :: '\x7b' :: (name.toList ++ ['\x7d']) := by
  rw [refers.written]
  simp

theorem noBrace (refers : RefersTo text name) : '\x7d' ∉ name.toList := fun member =>
  ne_closing_of_isNameChar (isNameChar_of_mem refers.identifier member) rfl

theorem wholeReference?_eq (refers : RefersTo text name) : wholeReference? text = some name := by
  unfold wholeReference?
  simp only [refers.toList_eq, splitReference?_append refers.noBrace, refers.identifier, if_true,
    String.ofList_toList]

end RefersTo

theorem wholeReference?_eq_some_iff {text name : String} :
    wholeReference? text = some name ↔ RefersTo text name := by
  refine ⟨fun whole => ?_, RefersTo.wholeReference?_eq⟩
  unfold wholeReference? at whole
  split at whole
  next rest opens =>
    split at whole
    next chars split =>
      split at whole
      next identifier =>
        cases whole
        obtain ⟨rfl, -⟩ := eq_of_splitReference?_eq_some split
        refine ⟨String.toList_inj.mp ?_, by rwa [String.toList_ofList]⟩
        rw [opens]
        simp
      next => cases whole
    next => cases whole
  next => cases whole

theorem RefersTo.unique {text name other : String} (refers : RefersTo text name)
    (refersToo : RefersTo text other) : name = other :=
  Option.some.inj (refers.wholeReference?_eq.symm.trans refersToo.wholeReference?_eq)

theorem not_refersTo_empty (name : String) : ¬RefersTo "" name := by
  intro refers
  have chars := refers.toList_eq
  cases chars

/-! ## Consulted names -/

/-- The environment is asked for this name: the text refers to it and no variable has it, or the
text refers to it once variables are replaced. -/
inductive Consults (raw : String) (bindings : Variables) (name : String) : Prop where
  | directly : RefersTo raw name → Dict.contains name bindings = false → Consults raw bindings name
  | substituted : RefersTo (substitute raw bindings) name → Consults raw bindings name

section Texts

variable {raw name : String} {bindings : Variables}

theorem unboundReference?_eq_some_iff :
    unboundReference? raw bindings = some name ↔
      RefersTo raw name ∧ Dict.contains name bindings = false := by
  rw [unboundReference?, Option.filter_eq_some_iff, wholeReference?_eq_some_iff,
    Bool.not_eq_true']

/-- An unbound reference leaves nothing behind, so that it is asked for only once. -/
theorem substitute_of_unbound (refers : RefersTo raw name)
    (unbound : Dict.contains name bindings = false) : substitute raw bindings = "" := by
  have noText : variableText bindings name.toList = "" := by
    have absent : Dict.get? name bindings = none :=
      Option.isNone_iff_eq_none.mp (Option.isSome_eq_false_iff.mp unbound)
    rw [variableText, trimChars_of_isIdentifier refers.identifier, String.ofList_toList, absent]
  rw [substitute, refers.toList_eq, substituteChars_reference bindings refers.noBrace, noText,
    substituteChars.eq_1]
  rfl

theorem Consults.unique {other : String} (consults : Consults raw bindings name)
    (consultsToo : Consults raw bindings other) : name = other := by
  cases consults with
  | directly refers unbound =>
      cases consultsToo with
      | directly refersToo => exact refers.unique refersToo
      | substituted refersToo =>
          rw [substitute_of_unbound refers unbound] at refersToo
          exact absurd refersToo (not_refersTo_empty other)
  | substituted refers =>
      cases consultsToo with
      | directly refersToo unbound =>
          rw [substitute_of_unbound refersToo unbound] at refers
          exact absurd refers (not_refersTo_empty name)
      | substituted refersToo => exact refers.unique refersToo

theorem fromEnvironment?_of_refersTo (environment : Environment) (refers : RefersTo raw name) :
    fromEnvironment? environment raw = environment name := by
  rw [fromEnvironment?, refers.wholeReference?_eq, Option.bind_some]

theorem fromEnvironment?_of_not_refersTo (environment : Environment)
    (refersToNone : ∀ name, ¬RefersTo raw name) : fromEnvironment? environment raw = none := by
  have none : wholeReference? raw = none :=
    Option.eq_none_iff_forall_ne_some.mpr fun name whole =>
      refersToNone name (wholeReference?_eq_some_iff.mp whole)
  rw [fromEnvironment?, none, Option.bind_none]

theorem resolveText_of_bound (environment : Environment)
    (notDirectly : unboundReference? raw bindings = none) :
    resolveText raw bindings environment =
      (fromEnvironment? environment (substitute raw bindings)).getD (substitute raw bindings) := by
  rw [resolveText, notDirectly, Option.bind_none]

/-- What the environment has for the consulted name is taken as it is. -/
theorem Consults.resolveText_eq (consults : Consults raw bindings name)
    (environment : Environment) :
    resolveText raw bindings environment =
      (environment name).getD (substitute raw bindings) := by
  cases direct : unboundReference? raw bindings with
  | some other =>
      obtain ⟨refers, unbound⟩ := unboundReference?_eq_some_iff.mp direct
      obtain rfl := consults.unique (.directly refers unbound)
      rw [resolveText, direct, Option.bind_some]
      cases environment name with
      | some value => rfl
      | none =>
          rw [substitute_of_unbound refers unbound,
            fromEnvironment?_of_not_refersTo environment not_refersTo_empty]
  | none =>
      cases consults with
      | directly refers unbound =>
          rw [unboundReference?_eq_some_iff.mpr ⟨refers, unbound⟩] at direct
          cases direct
      | substituted refers =>
          rw [resolveText_of_bound environment direct,
            fromEnvironment?_of_refersTo environment refers]

theorem resolveText_of_not_consults (consultsNone : ∀ name, ¬Consults raw bindings name)
    (environment : Environment) :
    resolveText raw bindings environment = substitute raw bindings := by
  have notDirectly : unboundReference? raw bindings = none :=
    Option.eq_none_iff_forall_ne_some.mpr fun name direct =>
      have ⟨refers, unbound⟩ := unboundReference?_eq_some_iff.mp direct
      consultsNone name (.directly refers unbound)
  rw [resolveText_of_bound environment notDirectly,
    fromEnvironment?_of_not_refersTo environment fun name refers =>
      consultsNone name (.substituted refers), Option.getD_none]

/-- A reference that is only a part of the substituted text reaches no environment. -/
example :
    resolveText "$\x7btoken\x7d" [("token", .text "Bearer $\x7bAPI\x7d")]
      (fun _ => some "secret") = "Bearer $\x7bAPI\x7d" := by
  decide +kernel

theorem resolveText_congr {environment environment' : Environment}
    (agree : ∀ name, Consults raw bindings name → environment name = environment' name) :
    resolveText raw bindings environment = resolveText raw bindings environment' := by
  by_cases consulted : ∃ name, Consults raw bindings name
  · obtain ⟨name, consults⟩ := consulted
    rw [consults.resolveText_eq, consults.resolveText_eq, agree name consults]
  · have consultsNone := not_exists.mp consulted
    rw [resolveText_of_not_consults consultsNone, resolveText_of_not_consults consultsNone]

/-- A variable hides the name from the environment. -/
theorem Consults.of_bound {other : String} (consults : Consults raw bindings other)
    (refers : RefersTo raw name) (bound : Dict.contains name bindings = true) :
    RefersTo (substitute raw bindings) other := by
  cases consults with
  | directly refersToo unbound =>
      obtain rfl := refers.unique refersToo
      cases bound.symm.trans unbound
  | substituted refersToo => exact refersToo

end Texts

end Parameters

/-! ## Trees -/

namespace Value

/-- The values right inside of a list or a map. -/
def children : Value → List Value
  | .list items => items
  | .map entries => entries.map (·.2)
  | _ => []

/-- The value at a place, which is given by the positions on the way down. -/
def within (value : Value) : List Nat → Option Value
  | [] => some value
  | position :: rest =>
      match value.children[position]? with
      | none => none
      | some child => child.within rest

end Value

namespace Parameters

section Trees

variable (bindings : Variables) (environment : Environment)

theorem resolveItems_eq_map (items : List Value) :
    resolveItems bindings environment items =
      items.map (resolveValue bindings environment) := by
  induction items with
  | nil => rfl
  | cons item rest ih => rw [resolveItems, ih, List.map_cons]

theorem resolveEntries_eq_mapValues (entries : List (String × Value)) :
    resolveEntries bindings environment entries =
      Dict.mapValues (resolveValue bindings environment) entries := by
  induction entries with
  | nil => rfl
  | cons entry rest ih =>
      obtain ⟨name, value⟩ := entry
      rw [resolveEntries, ih]
      rfl

theorem children_resolveValue (value : Value) :
    (resolveValue bindings environment value).children =
      value.children.map (resolveValue bindings environment) := by
  cases value with
  | list items =>
      rw [resolveValue, resolveItems_eq_map]
      rfl
  | map entries =>
      rw [resolveValue, resolveEntries_eq_mapValues]
      simp [Value.children, Dict.mapValues]
  | null | bool | integer | float | text => rfl

theorem within_resolveValue (value : Value) (path : List Nat) :
    (resolveValue bindings environment value).within path =
      (value.within path).map (resolveValue bindings environment) := by
  induction path generalizing value with
  | nil => rfl
  | cons position rest ih =>
      rw [Value.within, Value.within, children_resolveValue, List.getElem?_map]
      cases value.children[position]? with
      | none => rfl
      | some child => exact ih child

/-- What stands in one place before and after: a text is resolved, a list keeps its length, a map
keeps its keys, and any other value is the same. -/
inductive Resolved : Value → Value → Prop where
  | text (raw : String) : Resolved (.text raw) (.text (resolveText raw bindings environment))
  | list {items items' : List Value} :
      items'.length = items.length → Resolved (.list items) (.list items')
  | map {entries entries' : List (String × Value)} :
      entries'.map (·.1) = entries.map (·.1) → Resolved (.map entries) (.map entries')
  | null : Resolved .null .null
  | bool (value : Bool) : Resolved (.bool value) (.bool value)
  | integer (value : Int64) : Resolved (.integer value) (.integer value)
  | float (value : Binary64) : Resolved (.float value) (.float value)

theorem resolved_resolveValue (value : Value) :
    Resolved bindings environment value (resolveValue bindings environment value) := by
  cases value with
  | null => exact .null
  | bool value => exact .bool value
  | integer value => exact .integer value
  | float value => exact .float value
  | text raw => exact .text raw
  | list items =>
      rw [resolveValue, resolveItems_eq_map]
      exact .list (List.length_map _)
  | map entries =>
      rw [resolveValue, resolveEntries_eq_mapValues]
      exact .map (by simp [Dict.mapValues])

theorem resolve_eq (declared : Parameters) :
    Value.map (resolve declared bindings environment) =
      resolveValue bindings environment (.map declared) :=
  rfl

end Trees

theorem resolveValue_congr {bindings : Variables} {environment environment' : Environment}
    {value : Value} (agree : ∀ path raw, value.within path = some (.text raw) →
      resolveText raw bindings environment = resolveText raw bindings environment') :
    resolveValue bindings environment value = resolveValue bindings environment' value := by
  induction value using Value.induction with
  | null | bool | integer | float => rfl
  | text raw => exact congrArg Value.text (agree [] raw rfl)
  | list items each =>
      rw [resolveValue, resolveValue, resolveItems_eq_map, resolveItems_eq_map]
      refine congrArg Value.list (List.map_congr_left fun item member => ?_)
      obtain ⟨position, found⟩ := List.mem_iff_getElem?.mp member
      exact each item member fun path raw stands =>
        agree (position :: path) raw (by simp [Value.within, Value.children, found, stands])
  | map entries each =>
      rw [resolveValue, resolveValue, resolveEntries_eq_mapValues, resolveEntries_eq_mapValues]
      refine congrArg Value.map (List.map_congr_left fun entry member => ?_)
      obtain ⟨position, found⟩ := List.mem_iff_getElem?.mp member
      refine congrArg (entry.1, ·) (each entry member fun path raw stands => ?_)
      exact agree (position :: path) raw (by simp [Value.within, Value.children, found, stands])

/-- The environment is reached by whole references only. Two environments that agree on the names
that a text consults resolve it alike: one that is no reference to an unbound identifier and becomes
no reference by substitution resolves to the substituted text; one that consults a name, which is
the only one then, resolves to what the environment has for it, and else to the substituted text. A
name that a variable has is not looked up for a declared text.
The parameters of a step are resolved text by text: at every place, however deep, texts are resolved
and nothing else changes, so environments that agree on the names consulted by the texts in them
give the same parameters. -/
theorem resolve_consults_whole_references (bindings : Variables) :
    (∀ raw (environment environment' : Environment),
      (∀ name, Consults raw bindings name → environment name = environment' name) →
      resolveText raw bindings environment = resolveText raw bindings environment') ∧
    (∀ raw environment, (∀ name, ¬Consults raw bindings name) →
      resolveText raw bindings environment = substitute raw bindings) ∧
    (∀ raw name environment, Consults raw bindings name →
      resolveText raw bindings environment =
        (environment name).getD (substitute raw bindings)) ∧
    (∀ raw name other, Consults raw bindings name → Consults raw bindings other →
      name = other) ∧
    (∀ raw name (environment environment' : Environment),
      RefersTo raw name → Dict.contains name bindings = true →
      ¬RefersTo (substitute raw bindings) name →
      (∀ other, other ≠ name → environment other = environment' other) →
      resolveText raw bindings environment = resolveText raw bindings environment') ∧
    (∀ declared environment path,
      Option.Rel (Resolved bindings environment) ((Value.map declared).within path)
        ((Value.map (resolve declared bindings environment)).within path)) ∧
    ∀ declared (environment environment' : Environment),
      (∀ path raw name, (Value.map declared).within path = some (.text raw) →
        Consults raw bindings name → environment name = environment' name) →
      resolve declared bindings environment = resolve declared bindings environment' := by
  refine ⟨fun raw environment environment' => resolveText_congr,
    fun raw environment none => resolveText_of_not_consults none environment,
    fun raw name environment consults => consults.resolveText_eq environment,
    fun raw name other consults => consults.unique, ?bound, ?places, ?environments⟩
  case bound =>
    intro raw name environment environment' refers bound notSubstituted agree
    refine resolveText_congr fun consulted consults => agree consulted ?_
    rintro rfl
    exact notSubstituted (consults.of_bound refers bound)
  case places =>
    intro declared environment path
    rw [resolve_eq, within_resolveValue]
    cases (Value.map declared).within path with
    | none => exact .none
    | some value => exact .some (resolved_resolveValue bindings environment value)
  case environments =>
    intro declared environment environment' agree
    have same : Value.map (resolve declared bindings environment) =
        .map (resolve declared bindings environment') := by
      rw [resolve_eq, resolve_eq]
      exact resolveValue_congr fun path raw stands =>
        resolveText_congr fun name => agree path raw name stands
    exact Value.map.inj same

end Parameters

end RdfPipeline
