import SqlMapper.Entity.Record

/-!
# Writing records

Saving a record inserts a new row or updates the columns that changed. Enhancers adjust the values
first, and what they add is put into the datum too. Deleting marks the row if the table has a column
for that, and removes it if not. If a write fails, the attributes of the datum are put back to what
they were before.

Every function here gives the record back, also after a fault.
-/

namespace SqlMapper

namespace Record

variable {m : Type → Type} [Monad m] {ℓ α : Type}

/-- Sets the attributes of a datum that differ from the given values, up to the first fault. The
present attributes are those of the start. -/
def syncFrom (model : Model m ℓ α) (present : ColumnValues) :
    List (String × Value) → α → Except MappingFault Unit × α
  | [], a => (.ok (), a)
  | (column, value) :: rest, a =>
    if present.holds column value then syncFrom model present rest a
    else
      match model.setAttribute a column value with
      | .ok next => syncFrom model present rest next
      | .error fault => (.error fault, a)

/-- Sets the attributes that differ from the given values, up to the first fault. -/
def sync (model : Model m ℓ α) (r : Record α) (values : ColumnValues) :
    Except MappingFault Unit × Record α :=
  let (result, a) := syncFrom model (r.attributes model) values.entries r.model
  (result, { r with model := a })

/-- Puts attributes back. A fault while doing so is passed over. -/
def revert (model : Model m ℓ α) (previous : ColumnValues) (r : Record α) : Record α :=
  (r.sync model previous).2

/-- Whether a key is one that the database is to give. -/
def isUnsetKey : Value → Bool
  | .null => true
  | .int n => n == 0
  | _ => false

/-- Whether an attribute is part of a new row. A key that the database counts up is left out when it
is not set, a column with a default when it is null. -/
def isInserted (schema : Schema) (column : String) (value : Value) : Bool :=
  match schema.column? column with
  | some c =>
    if c.primaryKey && c.autoIncrement then !isUnsetKey value
    else if c.hasDefault then !value.isNull
    else true
  | none => true

/-- Puts the generated key into the datum, if there is one. -/
def takeKey (model : Model m ℓ α) (r : Record α) (result : InsertResult) :
    Except MappingFault Unit × Record α :=
  match result.generatedKey? with
  | none => (.ok (), r)
  | some key =>
    match model.setAttribute r.model model.schema.primaryKey (.int key) with
    | .ok a => (.ok (), { r with model := a })
    | .error fault => (.error fault, r)

/-- Inserts the row of a record. -/
def create (model : Model m ℓ α) (store : Store m ℓ) (r : Record α) :
    m (Except MappingFault Unit × Record α) := do
  let kept := (r.attributes model).filter (isInserted model.schema)
  let values ← adjustInsert model.schema (model.allEnhancers store.now) kept
  match r.sync model values with
  | (.error fault, r) => pure (.error fault, r)
  | (.ok (), r) => do
    let op := (Selection.ofModel model).toOperation model store
    match ← (store.executor.runInsert op values model.schema.isAutoIncrement).run with
    | .error fault => pure (.error fault, r)
    | .ok result => pure (r.takeKey model result)

/-- Updates the row of a record. The row is found by the key it had, not by a changed one. -/
def update (model : Model m ℓ α) (store : Store m ℓ) (r : Record α) :
    m (Except MappingFault Unit × Record α) := do
  match r.key model with
  | .error fault => pure (.error fault, r)
  | .ok key => do
    let dirty := r.snapshot.changes (r.attributes model)
    let values ← adjustUpdate model.schema (model.allEnhancers store.now) dirty
    match r.sync model values with
    | (.error fault, r) => pure (.error fault, r)
    | (.ok (), r) => do
      let op := ((Selection.ofModel model).whereEq model.schema.primaryKey key).toOperation model store
      match ← (store.executor.runUpdate op values).run with
      | .error fault => pure (.error fault, r)
      | .ok _ => pure (.ok (), r)

/-- The record after its datum has been written. -/
def written (model : Model m ℓ α) (r : Record α) : Record α :=
  { r with snapshot := .of (r.attributes model), isStored := true }

/-- Writes a record, and tells whether there was anything to write. -/
def persist (model : Model m ℓ α) (store : Store m ℓ) (r : Record α) :
    m (Except MappingFault Bool × Record α) := do
  if r.isStored && !r.isDirty model then pure (.ok false, r)
  else
    match ← if r.isStored then r.update model store else r.create model store with
    | (.error fault, r) => pure (.error fault, r)
    | (.ok (), r) => pure (.ok true, r.written model)

/-- Inserts a new record, or updates the columns of an old one that changed, and tells whether there
was anything to write. -/
def save (model : Model m ℓ α) (store : Store m ℓ) (r : Record α) :
    m (Except MappingFault Bool × Record α) := do
  match ← r.persist model store with
  | (.error fault, next) => pure (.error fault, next.revert model (r.attributes model))
  | (.ok saved, next) => pure (.ok saved, next)

/-- Sets one attribute and saves. -/
def writeColumn (model : Model m ℓ α) (store : Store m ℓ) (r : Record α) (column : String)
    (value : Value) : m (Except MappingFault Bool × Record α) := do
  let previous := r.attributes model
  match model.setAttribute r.model column value with
  | .error fault => pure (.error fault, r.revert model previous)
  | .ok a =>
    match ← { r with model := a }.persist model store with
    | (.error fault, next) => pure (.error fault, next.revert model previous)
    | (.ok saved, next) => pure (.ok saved, next)

/-- Removes the row of a record, and tells whether there was one. -/
def forceDelete (model : Model m ℓ α) (store : Store m ℓ) (r : Record α) :
    m (Except MappingFault Bool × Record α) := do
  if !r.isStored then pure (.ok false, r)
  else
    match r.key model with
    | .error fault => pure (.error fault, r)
    | .ok key => do
      let op := ((Selection.ofModel model).withTrashed.whereEq model.schema.primaryKey key).toOperation
        model store
      match ← (store.executor.runDelete op).run with
      | .error fault => pure (.error fault, r)
      | .ok affected =>
        pure (.ok (decide (0 < affected)), { r with snapshot := .empty, isStored := false })

/-- Deletes a record: marks its row if the table has a column for that, else removes it. -/
def delete (model : Model m ℓ α) (store : Store m ℓ) (r : Record α) :
    m (Except MappingFault Bool × Record α) := do
  match model.schema.softDelete with
  | none => r.forceDelete model store
  | some column =>
    if !r.isStored then pure (.ok false, r)
    else do
      let time ← store.now
      r.writeColumn model store column (.timestamp time)

/-- Takes the mark off a record. -/
def restore (model : Model m ℓ α) (store : Store m ℓ) (r : Record α) :
    m (Except MappingFault Bool × Record α) := do
  match model.softDeleteColumn with
  | .error fault => pure (.error fault, r)
  | .ok column => r.writeColumn model store column .null

end Record

end SqlMapper
