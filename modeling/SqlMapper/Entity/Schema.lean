/-!
# Schemas

A schema says what the mapping needs to know of a table: its columns, which of them is the key,
which the database fills by itself, and which hold the times of creation, change and deletion.
-/

namespace SqlMapper

/-- A column of a table. -/
structure Column where
  /-- The name. -/
  name : String
  /-- Whether the column is the key, or part of it. -/
  primaryKey : Bool := false
  /-- Whether the database counts the column up. -/
  autoIncrement : Bool := false
  /-- Whether the database fills the column when an insert leaves it out. -/
  hasDefault : Bool := false
deriving DecidableEq, Inhabited

/-- The columns for the times of creation and change. -/
structure TimestampColumns where
  /-- The time of creation. -/
  created : String
  /-- The time of the last change. -/
  updated : String
deriving DecidableEq, Inhabited

/-- What the mapping knows of a table. -/
structure Schema where
  /-- The name of the table. -/
  table : String
  /-- The columns, in order. -/
  columns : List Column
  /-- The columns for the times of creation and change, if there are such. -/
  timestamps : Option TimestampColumns := none
  /-- The column for the time of deletion, if deleting a row only marks it. -/
  softDelete : Option String := none
deriving DecidableEq, Inhabited

namespace Schema

/-- A column by its name. -/
def column? (s : Schema) (name : String) : Option Column :=
  s.columns.find? (fun c => c.name == name)

/-- The name of the key column: the first one marked as a key, or `id`. -/
def primaryKey (s : Schema) : String :=
  match s.columns.find? (fun c => c.primaryKey) with
  | some c => c.name
  | none => "id"

/-- Whether there is a key column that the database counts up. -/
def isAutoIncrement (s : Schema) : Bool :=
  s.columns.any (fun c => c.primaryKey && c.autoIncrement)

end Schema

end SqlMapper
