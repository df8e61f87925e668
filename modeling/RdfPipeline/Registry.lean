import RdfPipeline.Operation.Basic

/-!
# The registry of operations

Operations by their ids and by their types. A later registration of an id replaces the earlier one
in both indices.
-/

set_option autoImplicit false

namespace RdfPipeline

structure Registry where
  byId : Dict Operation
  /-- The operations of each type in the order of their last registrations. -/
  byType : OperationType → List Operation

namespace Registry

def empty : Registry := ⟨[], fun _ => []⟩

def get? (registry : Registry) (id : String) : Option Operation :=
  Dict.get? id registry.byId

def get (registry : Registry) (id : String) : Except EngineError Operation :=
  match registry.get? id with
  | some operation => .ok operation
  | none => .error (.unknownOperation id)

theorem get_eq_ok_iff {registry : Registry} {id : String} {operation : Operation} :
    registry.get id = .ok operation ↔ registry.get? id = some operation := by
  unfold get
  cases registry.get? id <;> simp

def contains (registry : Registry) (id : String) : Bool :=
  Dict.contains id registry.byId

/-- The lists by type without the operation that an id stood for. -/
def withdraw (registry : Registry) (id : String) : OperationType → List Operation :=
  match registry.get? id with
  | none => registry.byType
  | some previous => fun type =>
      if type = previous.type then (registry.byType type).filter (·.id != id)
      else registry.byType type

def register (registry : Registry) (operation : Operation) : Registry where
  byId := Dict.insert operation.id operation registry.byId
  byType := fun type =>
    let others := registry.withdraw operation.id type
    if type = operation.type then others ++ [operation] else others

def registerAll (registry : Registry) (operations : List Operation) : Registry :=
  operations.foldl register registry

def ids (registry : Registry) : List String :=
  Dict.keys registry.byId

def size (registry : Registry) : Nat :=
  registry.byId.length

/-- The operations of a type in ascending order of their ids. -/
def infosOf (registry : Registry) (type : OperationType) : List OperationInfo :=
  ((registry.byType type).map Operation.info).mergeSort fun left right => !(right.id < left.id)

def catalog (registry : Registry) : List (OperationType × List OperationInfo) :=
  (OperationType.all.filter fun type => !(registry.byType type).isEmpty).map fun type =>
    (type, registry.infosOf type)

end Registry

end RdfPipeline
