import RdfPipeline.Text.Ascii
import RdfPipeline.Value.Basic

/-!
# Declarations of operations

The categories of operations and the parameters that an operation declares.
-/

set_option autoImplicit false

namespace RdfPipeline

inductive OperationType where
  /-- Brings data in and takes no input of its own accord. -/
  | source
  | transform
  | cube
  | validation
  /-- Has an effect outside the pipeline, which a dry run leaves out. -/
  | output
  deriving DecidableEq, Repr

namespace OperationType

def all : List OperationType :=
  [.source, .transform, .cube, .validation, .output]

def toText : OperationType → String
  | .source => "SOURCE"
  | .transform => "TRANSFORM"
  | .cube => "CUBE"
  | .validation => "VALIDATION"
  | .output => "OUTPUT"

/-- A type by its name in any case. -/
def parse (name : String) : Except String OperationType :=
  match all.find? fun type => Text.equalsIgnoringAsciiCase type.toText name with
  | some type => .ok type
  | none => .error ("unknown operation type '" ++ name ++ "'")

end OperationType

/-- The kind of value that a parameter is meant for. -/
inductive ParameterType where
  | string
  | integer
  | number
  | boolean
  | list
  | map
  | uri
  deriving DecidableEq, Repr

def ParameterType.toText : ParameterType → String
  | .string => "string"
  | .integer => "integer"
  | .number => "number"
  | .boolean => "boolean"
  | .list => "list"
  | .map => "map"
  | .uri => "uri"

structure ParameterSpec where
  name : String
  description : String
  type : ParameterType
  required : Bool
  default : Option Value

namespace ParameterSpec

def mandatory (name : String) (type : ParameterType) (description : String) : ParameterSpec :=
  ⟨name, description, type, true, none⟩

def optional (name : String) (type : ParameterType) (description : String) : ParameterSpec :=
  ⟨name, description, type, false, none⟩

def withDefault (spec : ParameterSpec) (value : Value) : ParameterSpec :=
  { spec with default := some value }

end ParameterSpec

structure OperationInfo where
  id : String
  name : String
  description : String
  type : OperationType
  parameters : Dict ParameterSpec

end RdfPipeline
