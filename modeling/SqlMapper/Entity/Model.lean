import SqlMapper.Entity.Enhancer
import SqlMapper.Execution.Executor

/-!
# Models

A model says how the data of a type are kept as rows of a table. A store is where they are kept: a
database with its dialect, a clock, and the caller's way of calling its own listeners.
-/

namespace SqlMapper

/-- How the data of a type are kept as rows. -/
structure Model (m : Type → Type) (ℓ : Type) (α : Type) where
  /-- The table. -/
  schema : Schema
  /-- The attributes of a datum, in order. -/
  attributes : α → ColumnValues
  /-- Reads a datum from a row. -/
  fromRow : Row → Except MappingFault α
  /-- The datum with one attribute changed. -/
  setAttribute : α → String → Value → Except MappingFault α
  /-- Enhancers besides those that the schema asks for. -/
  enhancers : List (Enhancer m ℓ) := []

/-- Where entities are kept. -/
structure Store (m : Type → Type) (ℓ : Type) where
  /-- The dialect of the database. -/
  dialect : Dialect
  /-- The database. -/
  source : ConnectionSource m
  /-- The clock. -/
  now : m Instant
  /-- How the caller's listeners are called. -/
  hear : ℓ → LifecycleEvent (Listener ℓ) → m (Response (Listener ℓ))
  /-- Told of each statement before a connection is asked for. -/
  notice : Statement → m Unit

variable {m : Type → Type} [Monad m] {ℓ : Type}

/-- The executor that runs operations on a store. -/
def Store.executor (store : Store m ℓ) : Executor m (Listener ℓ) where
  dialect := store.dialect
  source := store.source
  hear := Listener.hear store.now store.hear
  notice := store.notice

namespace Model

variable {α : Type}

/-- The enhancers of a model, in the order in which they act: those the model names, then those the
schema asks for. So a scope has restricted a delete before the delete is called off. -/
def allEnhancers (model : Model m ℓ α) (now : m Instant) : List (Enhancer m ℓ) :=
  model.enhancers ++
    (if model.schema.timestamps.isSome then [Enhancer.timestamps now] else []) ++
    (if model.schema.softDelete.isSome then [Enhancer.softDeletes] else [])

/-- The column that marks rows as deleted. -/
def softDeleteColumn (model : Model m ℓ α) : Except MappingFault String :=
  match model.schema.softDelete with
  | some column => .ok column
  | none => .error (.notSoftDeleting model.schema.table)

end Model

/-- Adjusts the row of an insert by one enhancer after another. -/
def adjustInsert (schema : Schema) : List (Enhancer m ℓ) → ColumnValues → m ColumnValues
  | [], values => pure values
  | e :: rest, values => do
    let values ← e.onInsert schema values
    adjustInsert schema rest values

/-- Adjusts the assignments of an update by one enhancer after another. -/
def adjustUpdate (schema : Schema) : List (Enhancer m ℓ) → ColumnValues → m ColumnValues
  | [], values => pure values
  | e :: rest, values => do
    let values ← e.onUpdate schema values
    adjustUpdate schema rest values

end SqlMapper
