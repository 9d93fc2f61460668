import SqlMapper.Entity.Listener

/-!
# Enhancers

An enhancer adds one concern to all operations of an entity. It registers listeners on a fresh
operation, and it adjusts the values of an insert or an update before they are staged. It has a
name, so that a single operation can go without it. There are three enhancers here: a scope, which
restricts an entity to the rows with some value in some column, and the two that keep the columns
for times.
-/

namespace SqlMapper

/-- A concern added to the operations of an entity. -/
structure Enhancer (m : Type → Type) (ℓ : Type) where
  /-- The name it is skipped by. -/
  name : String
  /-- Prepares a fresh operation, as a rule by registering listeners. -/
  enhance : Schema → Operation (Listener ℓ) → Operation (Listener ℓ)
  /-- Adjusts the row of an insert. -/
  onInsert : Schema → ColumnValues → m ColumnValues
  /-- Adjusts the assignments of an update. -/
  onUpdate : Schema → ColumnValues → m ColumnValues

namespace Enhancer

variable {m : Type → Type} [Monad m] {ℓ : Type}

/-- The name of the enhancer that marks rows in place of deleting them. -/
def softDeletesName : String := "soft_delete"

/-- The name of the enhancer that keeps the times of creation and change. -/
def timestampsName : String := "timestamps"

/-- Gives a column a value unless it has one that is not null. -/
def fill (values : ColumnValues) (column : String) (value : Value) : ColumnValues :=
  if values.isUnset column then values.set column value else values

/-- Restricts selects, updates and deletes to the rows where a column has a value, and gives that
value to rows that are inserted without one. -/
def columnScope (name column : String) (value : Value) : Enhancer m ℓ where
  name := name
  enhance _ op :=
    [.preSelect, .preUpdate, .preDelete].foldl
      (fun op kind => op.listen kind (.restrict column value)) op
  onInsert _ values := pure (fill values column value)
  onUpdate _ values := pure values

/-- Keeps the columns for the times of creation and change. What the caller sets itself is left
alone: on insert everything but null, on update everything. -/
def timestamps (now : m Instant) : Enhancer m ℓ where
  name := timestampsName
  enhance _ op := op
  onInsert schema values :=
    match schema.timestamps with
    | none => pure values
    | some columns => do
      let time ← now
      pure (fill (fill values columns.created (.timestamp time)) columns.updated (.timestamp time))
  onUpdate schema values :=
    match schema.timestamps with
    | none => pure values
    | some columns =>
      if values.contains columns.updated then pure values
      else do
        let time ← now
        pure (values.set columns.updated (.timestamp time))

/-- Hides rows that are marked as deleted from selects, and marks rows in place of deleting them. -/
def softDeletes : Enhancer m ℓ where
  name := softDeletesName
  enhance schema op :=
    match schema.softDelete with
    | none => op
    | some column =>
      (op.listen .preSelect (.restrictToNull column)).listen .preDelete
        (.markDeleted column (schema.timestamps.map (fun columns => columns.updated)))
  onInsert _ values := pure values
  onUpdate _ values := pure values

end Enhancer

end SqlMapper
