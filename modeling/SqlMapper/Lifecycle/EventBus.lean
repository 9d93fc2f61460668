import SqlMapper.Lifecycle.EventKind

/-!
# Listeners of a query

An event bus holds listeners in the order in which they were registered. Each has an identifier of
its own: identifiers are counted up and never used again, not even after all listeners were dropped.
What a listener does is not known here; a bus holds listeners of any type.
-/

namespace SqlMapper

/-- What tells one listener of a bus from the others. -/
structure ListenerId where
  /-- The count of registrations before this one. -/
  number : Nat
deriving DecidableEq, Inhabited

/-- What the failure of a listener means for the listeners after it. -/
inductive ErrorPolicy where
  /-- They are called all the same. -/
  | isolate
  /-- They are not called. -/
  | shortCircuit
deriving DecidableEq, Inhabited

/-- The name of a policy. -/
def ErrorPolicy.title : ErrorPolicy → String
  | .isolate => "Isolate"
  | .shortCircuit => "ShortCircuit"

/-- A listener with the moment at which it is called. -/
structure Registration (ℓ : Type) where
  /-- The moment. -/
  kind : EventKind
  /-- The identifier. -/
  id : ListenerId
  /-- The listener. -/
  listener : ℓ
deriving Inhabited

/-- Whether a registration is for the moment and under the identifier. -/
def Registration.isAt {ℓ : Type} (r : Registration ℓ) (kind : EventKind) (id : ListenerId) : Bool :=
  decide (r.kind = kind) && decide (r.id = id)

/-- Registered listeners. -/
structure EventBus (ℓ : Type) where
  /-- The number of the next identifier. -/
  nextNumber : Nat := 0
  /-- The listeners, in the order of registration. -/
  registrations : List (Registration ℓ) := []
  /-- What the failure of a listener means. -/
  policy : ErrorPolicy := .isolate
deriving Inhabited

namespace EventBus

variable {ℓ : Type}

/-- The identifier that the next registration gets. -/
def nextId (bus : EventBus ℓ) : ListenerId := ⟨bus.nextNumber⟩

/-- Registers a listener under the next identifier. -/
def register (bus : EventBus ℓ) (kind : EventKind) (listener : ℓ) : EventBus ℓ :=
  { bus with
    nextNumber := bus.nextNumber + 1
    registrations := bus.registrations ++ [{ kind, id := bus.nextId, listener }] }

/-- Whether a listener is registered for the moment under the identifier. -/
def isRegistered (bus : EventBus ℓ) (kind : EventKind) (id : ListenerId) : Bool :=
  bus.registrations.any (fun r => r.isAt kind id)

/-- Drops the listener registered for the moment under the identifier, if there is one. -/
def unregister (bus : EventBus ℓ) (kind : EventKind) (id : ListenerId) : EventBus ℓ :=
  { bus with registrations := bus.registrations.filter (fun r => !r.isAt kind id) }

/-- Drops all listeners. -/
def clear (bus : EventBus ℓ) : EventBus ℓ :=
  { bus with registrations := [] }

/-- Sets what the failure of a listener means. -/
def setPolicy (bus : EventBus ℓ) (policy : ErrorPolicy) : EventBus ℓ :=
  { bus with policy }

/-- The listeners for a moment, in the order of registration. -/
def registeredFor (bus : EventBus ℓ) (kind : EventKind) : List (Registration ℓ) :=
  bus.registrations.filter (fun r => decide (r.kind = kind))

/-- The number of listeners for a moment. -/
def count (bus : EventBus ℓ) (kind : EventKind) : Nat :=
  (bus.registeredFor kind).length

/-- Whether there are no listeners. -/
def isEmpty (bus : EventBus ℓ) : Bool :=
  bus.registrations.isEmpty

/-- A one-line description. -/
def description (bus : EventBus ℓ) : String :=
  "EventBus \x7b listeners: " ++ Nat.repr bus.registrations.length ++ ", policy: " ++
    bus.policy.title ++ " \x7d"

/-- Dropping all listeners keeps the count of identifiers. -/
@[simp] theorem nextNumber_clear (bus : EventBus ℓ) : bus.clear.nextNumber = bus.nextNumber := rfl

/-- A new listener is called last. -/
theorem registeredFor_register (bus : EventBus ℓ) (kind other : EventKind) (listener : ℓ) :
    (bus.register kind listener).registeredFor other =
      if kind = other then bus.registeredFor other ++ [{ kind, id := bus.nextId, listener }]
      else bus.registeredFor other := by
  by_cases h : kind = other <;> simp [register, registeredFor, h]

end EventBus

end SqlMapper
