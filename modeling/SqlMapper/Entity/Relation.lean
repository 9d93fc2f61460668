import SqlMapper.Entity.Record

/-!
# Relations

A relation leads from a parent to the records whose column holds the value of an attribute of the
parent. It is loaded when it is first asked for, and what was loaded is kept until it is reset,
whatever parent it is asked for later.
-/

namespace SqlMapper

/-- The attribute of the parent and the column of the related rows that have to agree. -/
structure RelationKeys where
  /-- The attribute of the parent. -/
  parentKey : String
  /-- The column of the related rows. -/
  localKey : String
deriving DecidableEq, Inhabited

/-- The related rows of a parent; none are asked for when the attribute is null. -/
def RelationKeys.selection {m : Type → Type} {ℓ α : Type} (keys : RelationKeys)
    (model : Model m ℓ α) (parent : ColumnValues) : Except MappingFault (Option (Selection ℓ)) :=
  match parent.get? keys.parentKey with
  | none => .error (.missingColumn keys.parentKey)
  | some value =>
    if value.isNull then .ok none
    else .ok (some ((Selection.ofModel model).whereEq keys.localKey value))

variable {m : Type → Type} [Monad m] {ℓ α : Type}

/-- What is loaded with the related rows of a parent, or what stands for no rows. -/
def RelationKeys.load {β : Type} (keys : RelationKeys) (model : Model m ℓ α)
    (parent : ColumnValues) (noRows : β) (load : Selection ℓ → ExceptT MappingFault m β) :
    ExceptT MappingFault m β :=
  match keys.selection model parent with
  | .error fault => throw fault
  | .ok none => pure noRows
  | .ok (some s) => load s

/-- A relation to at most one record. -/
structure HasOne (α : Type) where
  /-- The keys. -/
  keys : RelationKeys
  /-- Whether the relation was loaded. -/
  isLoaded : Bool := false
  /-- The record that was loaded, if there was one. -/
  record : Option (Record α) := none
deriving Inhabited

namespace HasOne

/-- The related record, loaded when it is first asked for. After a fault nothing is kept. -/
def get (model : Model m ℓ α) (store : Store m ℓ) (h : HasOne α) (parent : ColumnValues) :
    m (Except MappingFault (Option (Record α)) × HasOne α) := do
  if h.isLoaded then pure (.ok h.record, h)
  else
    match ← (h.keys.load model parent none (fun s => s.first model store)).run with
    | .ok record => pure (.ok record, { h with isLoaded := true, record })
    | .error fault => pure (.error fault, h)

/-- Forgets what was loaded. -/
def reset (h : HasOne α) : HasOne α := { h with isLoaded := false, record := none }

end HasOne

/-- A relation to any number of records. -/
structure HasMany (α : Type) where
  /-- The keys. -/
  keys : RelationKeys
  /-- What was loaded, if anything was. -/
  loaded : Option (List (Record α)) := none
deriving Inhabited

namespace HasMany

/-- The related records, loaded when they are first asked for. After a fault nothing is kept. -/
def get (model : Model m ℓ α) (store : Store m ℓ) (h : HasMany α) (parent : ColumnValues) :
    m (Except MappingFault (List (Record α)) × HasMany α) := do
  match h.loaded with
  | some records => pure (.ok records, h)
  | none =>
    match ← (h.keys.load model parent [] (fun s => s.get model store)).run with
    | .ok records => pure (.ok records, { h with loaded := some records })
    | .error fault => pure (.error fault, h)

/-- Whether the relation was loaded. -/
def isLoaded (h : HasMany α) : Bool := h.loaded.isSome

/-- Forgets what was loaded. -/
def reset (h : HasMany α) : HasMany α := { h with loaded := none }

end HasMany

end SqlMapper
