import SqlMapper.Data.Instant
import SqlMapper.Entity.Schema
import SqlMapper.Lifecycle.Dispatch

/-!
# Listeners of the mapping

The mapping has two kinds of listeners of its own. One restricts the rows a statement sees. The
other turns a delete into an update that marks the rows; it calls the delete off and asks for the
update in its stead. All other listeners are the caller's, and what they do is a parameter.
-/

namespace SqlMapper

/-- A listener on operations of entities. The caller's listeners are of type `ℓ`. -/
inductive Listener (ℓ : Type) where
  /-- Restricts the rows to those where a column has a value. -/
  | restrict (column : String) (value : Value)
  /-- Restricts the rows to those where a column is null. -/
  | restrictToNull (column : String)
  /-- Marks rows in a column in place of deleting them, and notes the change in another column. -/
  | markDeleted (column : String) (updated : Option String)
  /-- A listener of the caller. -/
  | custom (listener : ℓ)
deriving Inhabited

namespace Listener

variable {m : Type → Type} [Monad m] {ℓ : Type}

/-- The assignments that mark rows as deleted at some time. -/
def marks (column : String) (updated : Option String) (time : Instant) : ColumnValues :=
  let marked := ColumnValues.empty.set column (.timestamp time)
  match updated with
  | some updated => marked.set updated (.timestamp time)
  | none => marked

/-- The update that marks the rows of an operation, but for those that are marked already. -/
def marking (column : String) (updated : Option String) (time : Instant)
    (op : Operation (Listener ℓ)) : Operation (Listener ℓ) :=
  op.mapQuery (fun q => (q.whereNull column).stageUpdate (marks column updated time))

/-- Calls a listener, given a clock and how the caller's listeners are called. -/
def hear (now : m Instant) (custom : ℓ → LifecycleEvent (Listener ℓ) → m (Response (Listener ℓ))) :
    Hearing m (Listener ℓ)
  | .restrict column value, event =>
    pure { operation := event.operation.mapQuery (fun q => q.whereEq column value) }
  | .restrictToNull column, event =>
    pure { operation := event.operation.mapQuery (fun q => q.whereNull column) }
  | .markDeleted column updated, event => do
    let time ← now
    pure {
      operation := event.operation
      requests := [(.update, marking column updated time event.operation)]
      verdict := .cancel }
  | .custom listener, event => custom listener event

end Listener

end SqlMapper
