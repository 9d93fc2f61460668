import SqlMapper.Entity.Model

/-!
# Selections

A selection is an operation on the rows of an entity, before the enhancers have acted on it. Some
enhancers can be left out by name; leaving out the one that hides marked rows also makes a delete
remove rows again.
-/

namespace SqlMapper

/-- An operation on the rows of an entity, with the names of the enhancers that are left out. -/
structure Selection (ℓ : Type) where
  /-- The operation so far. -/
  operation : Operation (Listener ℓ)
  /-- The names of the enhancers that are left out. -/
  skipped : List String := []
deriving Inhabited

namespace Selection

variable {m : Type → Type} [Monad m] {ℓ α : Type}

/-- All rows of the entity. -/
def ofModel (model : Model m ℓ α) : Selection ℓ :=
  { operation := Operation.ofTable model.schema.table }

/-- Refines the operation. -/
def filter (s : Selection ℓ) (f : Operation (Listener ℓ) → Operation (Listener ℓ)) :
    Selection ℓ :=
  { s with operation := f s.operation }

/-- Refines the operation by a change that may fail. -/
def tryFilter (s : Selection ℓ)
    (f : Operation (Listener ℓ) → Except QueryFault (Operation (Listener ℓ))) :
    Except MappingFault (Selection ℓ) :=
  match f s.operation with
  | .ok operation => .ok { s with operation }
  | .error fault => .error (.query fault)

/-- Leaves out the enhancers of a name. -/
def without (s : Selection ℓ) (name : String) : Selection ℓ :=
  { s with skipped := s.skipped ++ [name] }

/-- Includes the rows marked as deleted. -/
def withTrashed (s : Selection ℓ) : Selection ℓ :=
  s.without Enhancer.softDeletesName

/-- Restricts to the rows where a column equals a value. -/
def whereEq (s : Selection ℓ) (column : String) (value : Value) : Selection ℓ :=
  s.filter (fun op => op.mapQuery (fun q => q.whereEq column value))

/-- Restricts to the rows marked as deleted. -/
def onlyTrashed (model : Model m ℓ α) (s : Selection ℓ) : Except MappingFault (Selection ℓ) :=
  match model.softDeleteColumn with
  | .ok column => .ok (s.withTrashed.filter (fun op => op.mapQuery (fun q => q.whereNotNull column)))
  | .error fault => .error fault

/-- The enhancers that will act, in order. -/
def enhancers (model : Model m ℓ α) (store : Store m ℓ) (s : Selection ℓ) : List (Enhancer m ℓ) :=
  (model.allEnhancers store.now).filter (fun e => !s.skipped.contains e.name)

/-- The operation prepared by the enhancers. -/
def toOperation (model : Model m ℓ α) (store : Store m ℓ) (s : Selection ℓ) :
    Operation (Listener ℓ) :=
  (s.enhancers model store).foldl (fun op e => e.enhance model.schema op) s.operation

/-- Whether there are any rows. -/
def anyRows (model : Model m ℓ α) (store : Store m ℓ) (s : Selection ℓ) :
    ExceptT MappingFault m Bool :=
  store.executor.runExists (s.toOperation model store)

/-- Assigns values in all rows. The enhancers adjust the assignments unless there are none. -/
def update (model : Model m ℓ α) (store : Store m ℓ) (s : Selection ℓ) (values : ColumnValues) :
    ExceptT MappingFault m UInt64 := do
  let values ←
    if values.isEmpty then pure values
    else ExceptT.lift (adjustUpdate model.schema (s.enhancers model store) values)
  store.executor.runUpdate (s.toOperation model store) values

/-- Deletes all rows, or marks them. -/
def delete (model : Model m ℓ α) (store : Store m ℓ) (s : Selection ℓ) :
    ExceptT MappingFault m UInt64 :=
  store.executor.runDelete (s.toOperation model store)

/-- Takes the mark off all rows marked as deleted. -/
def restore (model : Model m ℓ α) (store : Store m ℓ) (s : Selection ℓ) :
    ExceptT MappingFault m UInt64 := do
  let column ← ExceptT.mk (pure model.softDeleteColumn)
  let trashed ← ExceptT.mk (pure (s.onlyTrashed model))
  trashed.update model store (ColumnValues.empty.set column .null)

end Selection

end SqlMapper
