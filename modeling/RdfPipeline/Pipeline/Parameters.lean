import RdfPipeline.Config
import RdfPipeline.Operation.Declaration
import RdfPipeline.Text.Ascii
import RdfPipeline.Value.Json

/-!
# Parameters of steps

How the declared parameters of a step become the values that its operation sees: references to
variables are replaced, texts that are one reference as a whole may reach the environment, and
defaults fill the gaps.
-/

set_option autoImplicit false

namespace RdfPipeline.Parameters

/-! ## Variables -/

/-- The name up to the closing brace and what follows the brace. -/
def splitReference? (chars : List Char) : Option (List Char × List Char) :=
  match chars.dropWhile (· != '\x7d') with
  | [] => none
  | _ :: rest => some (chars.takeWhile (· != '\x7d'), rest)

theorem length_lt_of_splitReference? {chars name rest : List Char}
    (found : splitReference? chars = some (name, rest)) : rest.length < chars.length := by
  unfold splitReference? at found
  have shorter := (List.dropWhile_sublist (fun c => c != '\x7d') (l := chars)).length_le
  split at found
  · simp at found
  · next dropped =>
      simp only [Option.some.injEq, Prod.mk.injEq] at found
      rw [dropped, found.2] at shorter
      simp only [List.length_cons] at shorter
      omega

/-- The text of a variable; unbound names have none. -/
def variableText (bindings : Variables) (name : List Char) : String :=
  match Dict.get? (String.ofList (Text.trimChars name)) bindings with
  | some value => value.toText
  | none => ""

def substituteChars (bindings : Variables) (chars : List Char) : List Char :=
  match chars with
  | [] => []
  | '$' :: '\x7b' :: rest =>
      match _found : splitReference? rest with
      | some (name, after) =>
          (variableText bindings name).toList ++ substituteChars bindings after
      | none => '$' :: '\x7b' :: substituteChars bindings rest
  | c :: rest => c :: substituteChars bindings rest
termination_by chars.length
decreasing_by
  · have := length_lt_of_splitReference? _found
    simp only [List.length_cons]
    omega
  · simp only [List.length_cons]
    omega
  · simp only [List.length_cons]
    omega

/-- Replaces every reference by the text of its variable, from left to right and once. -/
def substitute (raw : String) (bindings : Variables) : String :=
  String.ofList (substituteChars bindings raw.toList)

/-! ## The environment -/

def isNameStart (c : Char) : Bool :=
  ('a' ≤ c && c ≤ 'z') || ('A' ≤ c && c ≤ 'Z') || c == '_'

def isIdentifier : List Char → Bool
  | [] => false
  | first :: rest =>
      isNameStart first && rest.all fun c => isNameStart c || Text.isDigit c

/-- The name of a text that is one reference to an identifier and nothing else. -/
def wholeReference? (text : String) : Option String :=
  match text.toList with
  | '$' :: '\x7b' :: rest =>
      match splitReference? rest with
      | some (name, []) => if isIdentifier name then some (String.ofList name) else none
      | _ => none
  | _ => none

/-- What the environment has for a text that is one reference as a whole. -/
def fromEnvironment? (environment : Environment) (text : String) : Option String :=
  (wholeReference? text).bind environment

/-- The reference of a text that is one as a whole and names no variable. -/
def unboundReference? (raw : String) (bindings : Variables) : Option String :=
  (wholeReference? raw).filter fun name => !Dict.contains name bindings

/-- The text that a declared text stands for. The environment is asked for a name that no variable
has, and for what is again one reference once variables are replaced. -/
def resolveText (raw : String) (bindings : Variables) (environment : Environment) : String :=
  match (unboundReference? raw bindings).bind environment with
  | some value => value
  | none =>
      (fromEnvironment? environment (substitute raw bindings)).getD (substitute raw bindings)

/-! ## Whole parameters -/

mutual

/-- Resolves the texts of a value at every depth. -/
def resolveValue (bindings : Variables) (environment : Environment) : Value → Value
  | .text raw => .text (resolveText raw bindings environment)
  | .list items => .list (resolveItems bindings environment items)
  | .map entries => .map (resolveEntries bindings environment entries)
  | other => other

def resolveItems (bindings : Variables) (environment : Environment) : List Value → List Value
  | [] => []
  | item :: rest =>
      resolveValue bindings environment item :: resolveItems bindings environment rest

def resolveEntries (bindings : Variables) (environment : Environment) :
    List (String × Value) → List (String × Value)
  | [] => []
  | (name, value) :: rest =>
      (name, resolveValue bindings environment value) ::
        resolveEntries bindings environment rest

end

def resolve (declared : Parameters) (bindings : Variables) (environment : Environment) :
    Parameters :=
  resolveEntries bindings environment declared

/-- Gives a parameter that is absent or null the default of a specification. -/
def fillDefault (parameters : Parameters) (spec : ParameterSpec) : Parameters :=
  match spec.default with
  | none => parameters
  | some value =>
      if ((Dict.get? spec.name parameters).map Value.isNull).getD true then
        Dict.insert spec.name value parameters
      else parameters

def applyDefaults (parameters : Parameters) (specs : List ParameterSpec) : Parameters :=
  specs.foldl fillDefault parameters

end RdfPipeline.Parameters
