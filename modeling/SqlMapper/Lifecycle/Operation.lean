import SqlMapper.Lifecycle.EventBus
import SqlMapper.Statement.Refinement
import SqlMapper.Text.Quoted

/-!
# Operations

An operation is a query about to be run, with the listeners that will see it. Compiling looks at the
query alone. A listener that calls a statement off may ask for others to run in its stead; these are
operations too, but their listeners are dropped, so they run without further events.
-/

namespace SqlMapper

/-- A query with its listeners. -/
structure Operation (ℓ : Type) where
  /-- The query. -/
  query : Query := {}
  /-- The listeners. -/
  events : EventBus ℓ := {}
deriving Inhabited

namespace Operation

variable {ℓ : Type}

/-- An operation on a table, without listeners. -/
def ofTable (table : String) : Operation ℓ :=
  { query := Query.ofTable table }

/-- Changes the query. -/
def mapQuery (op : Operation ℓ) (f : Query → Query) : Operation ℓ :=
  { op with query := f op.query }

/-- Changes the query by one step of building. -/
def refine (op : Operation ℓ) (step : Refinement) : Except QueryFault (Operation ℓ) :=
  match op.query.refine step with
  | .ok query => .ok { op with query }
  | .error fault => .error fault

/-- Registers a listener. -/
def listen (op : Operation ℓ) (kind : EventKind) (listener : ℓ) : Operation ℓ :=
  { op with events := op.events.register kind listener }

/-- Applies a change that may fail. After a fault the operation is what it was. -/
def attempt (op : Operation ℓ) (change : Operation ℓ → Except QueryFault (Operation ℓ)) :
    Operation ℓ × Except QueryFault Unit :=
  match change op with
  | .ok next => (next, .ok ())
  | .error fault => (op, .error fault)

end Operation

/-- A statement to run in the stead of one that was called off. -/
structure Substitute (ℓ : Type) where
  /-- What the operation is compiled as. -/
  kind : StatementKind
  /-- The operation. -/
  operation : Operation ℓ
deriving Inhabited

/-- The substitute made of an operation: its listeners are dropped. -/
def Substitute.of {ℓ : Type} (kind : StatementKind) (op : Operation ℓ) : Substitute ℓ :=
  { kind, operation := { op with events := op.events.clear } }

/-- What a listener is shown when it is called. -/
structure LifecycleEvent (ℓ : Type) where
  /-- The moment. -/
  kind : EventKind
  /-- The operation as the listeners before left it. -/
  operation : Operation ℓ
  /-- The substitutes that the listeners before asked for. -/
  substitutes : List (Substitute ℓ)
deriving Inhabited

/-- A one-line description. -/
def LifecycleEvent.description {ℓ : Type} (event : LifecycleEvent ℓ) : String :=
  "LifecycleEvent \x7b kind: " ++ event.kind.title ++ ", table: " ++
    Text.quoted event.operation.query.table ++ ", substitutes: " ++
    Nat.repr event.substitutes.length ++ " \x7d"

end SqlMapper
