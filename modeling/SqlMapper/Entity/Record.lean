import SqlMapper.Entity.Selection
import SqlMapper.Entity.Snapshot

/-!
# Records

A record is a datum with what is known of its row: whether there is one, and what it held when it
was last read or written.
-/

namespace SqlMapper

/-- A datum with what is known of its row. -/
structure Record (α : Type) where
  /-- The datum. -/
  model : α
  /-- What the row held when it was last read or written. -/
  snapshot : Snapshot := .empty
  /-- Whether there is a row. -/
  isStored : Bool := false
deriving Inhabited

namespace Record

variable {m : Type → Type} [Monad m] {ℓ α : Type}

/-- The record of a datum that has no row yet. -/
def ofModel (a : α) : Record α := { model := a }

/-- The record of a row. -/
def hydrate (model : Model m ℓ α) (row : Row) : Except MappingFault (Record α) :=
  match model.fromRow row with
  | .ok a => .ok { model := a, snapshot := .of (model.attributes a), isStored := true }
  | .error fault => .error fault

/-- The records of rows; the first row that cannot be read is a fault of all. -/
def hydrateAll (model : Model m ℓ α) (rows : List Row) : Except MappingFault (List (Record α)) :=
  rows.mapM (hydrate model)

/-- The attributes of the datum. -/
def attributes (model : Model m ℓ α) (r : Record α) : ColumnValues :=
  model.attributes r.model

/-- Whether an attribute differs from what the row held. -/
def isDirty (model : Model m ℓ α) (r : Record α) : Bool :=
  r.snapshot.isDirty (r.attributes model)

/-- The attributes that differ from what the row held, in order. -/
def dirtyColumns (model : Model m ℓ α) (r : Record α) : List String :=
  r.snapshot.dirtyColumns (r.attributes model)

/-- Whether the datum is marked as deleted. -/
def isTrashed (model : Model m ℓ α) (r : Record α) : Bool :=
  match model.schema.softDelete with
  | some column => !(r.attributes model).isUnset column
  | none => false

/-- The key of the row: the one it had when it was last read or written, else the present one. -/
def key (model : Model m ℓ α) (r : Record α) : Except MappingFault Value :=
  let column := model.schema.primaryKey
  match r.snapshot.recorded? column <|> (r.attributes model).get? column with
  | some value =>
    if value.isNull then .error (.missingPrimaryKey model.schema.table) else .ok value
  | none => .error (.missingPrimaryKey model.schema.table)

end Record

namespace Selection

variable {m : Type → Type} [Monad m] {ℓ α : Type}

/-- The records of all rows. -/
def get (model : Model m ℓ α) (store : Store m ℓ) (s : Selection ℓ) :
    ExceptT MappingFault m (List (Record α)) := do
  let rows ← store.executor.runSelect (s.toOperation model store)
  ExceptT.mk (pure (Record.hydrateAll model rows))

/-- The record of the first row. -/
def first (model : Model m ℓ α) (store : Store m ℓ) (s : Selection ℓ) :
    ExceptT MappingFault m (Option (Record α)) := do
  let limited := s.filter (fun op => op.mapQuery (fun q => { q with limit := some 1 }))
  let records ← limited.get model store
  return records.head?

/-- The record with a key. -/
def find (model : Model m ℓ α) (store : Store m ℓ) (s : Selection ℓ) (key : Value) :
    ExceptT MappingFault m (Option (Record α)) :=
  (s.whereEq model.schema.primaryKey key).first model store

end Selection

end SqlMapper
