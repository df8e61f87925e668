import RdfPipeline.Decimal.Integer
import RdfPipeline.Error
import RdfPipeline.Text.Blank

/-!
# Configuration

Settings of the engine, read from an environment of named texts.
-/

set_option autoImplicit false

namespace RdfPipeline

abbrev Environment := String → Option String

/-- What becomes of a step whose graph does not conform. -/
inductive ViolationPolicy where
  /-- The step fails. -/
  | fail
  /-- The step succeeds with a warning. -/
  | warn
  /-- The step succeeds with a note. -/
  | proceed
  deriving DecidableEq, Repr

/-- A policy by its name, in any case and with blanks around it. -/
def ViolationPolicy.parse (name : String) : Except String ViolationPolicy :=
  let word := Text.lowerAscii (Text.trim name)
  if word = "error" then .ok .fail
  else if word ∈ ["warn", "warning"] then .ok .warn
  else if word = "continue" then .ok .proceed
  else .error ("expected one of error, warn, continue; got '" ++ word ++ "'")

def ViolationPolicy.toText : ViolationPolicy → String
  | .fail => "error"
  | .warn => "warn"
  | .proceed => "continue"

structure Config where
  /-- Rows between reports of progress. -/
  progressInterval : Nat := 1000
  /-- How deep references between shapes are followed. -/
  maxShapeDepth : Nat := 32
  /-- The policy of validation steps that name none. -/
  onViolation : ViolationPolicy := .fail
  deriving DecidableEq, Repr

namespace Config

def progressIntervalName : String := "WEAVER_PROGRESS_INTERVAL"

def maxShapeDepthName : String := "WEAVER_MAX_SHAPE_DEPTH"

def onViolationName : String := "WEAVER_ON_VIOLATION"

def refuse {α : Type} (name reason : String) : Except EngineError α :=
  .error (.invalidDefinition ("Invalid configuration value for " ++ name ++ ": " ++ reason))

/-- A count above zero, or the default if the environment does not have the name. -/
def readPositive (environment : Environment) (name : String) (default : Nat) :
    Except EngineError Nat :=
  match environment name with
  | none => .ok default
  | some text =>
      match Decimal.parseCount (Text.trim text) with
      | .ok 0 => refuse name "must be greater than zero"
      | .ok count => .ok count
      | .error cause => refuse name cause.message

def readPolicy (environment : Environment) (default : ViolationPolicy) :
    Except EngineError ViolationPolicy :=
  match environment onViolationName with
  | none => .ok default
  | some text =>
      match ViolationPolicy.parse text with
      | .ok policy => .ok policy
      | .error reason => refuse onViolationName reason

def ofEnvironment (environment : Environment) : Except EngineError Config := do
  let progressInterval ← readPositive environment progressIntervalName 1000
  let maxShapeDepth ← readPositive environment maxShapeDepthName 32
  let onViolation ← readPolicy environment .fail
  .ok { progressInterval, maxShapeDepth, onViolation }

end Config

end RdfPipeline
