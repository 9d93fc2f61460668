import SqlMapper.Data.Conversion
import SqlMapper.Statement.Fault

/-!
# Faults of running and mapping

Running an operation can fail because the query is refused, because the database fails, or because
the task that runs it dies. Reading rows into entities and writing entities can fail for reasons of
their own.
-/

namespace SqlMapper

/-- How a database fails. -/
inductive DatabaseFault where
  /-- No connection could be acquired. -/
  | noConnection
  /-- The statement failed. -/
  | failedStatement
deriving DecidableEq, Inhabited

/-- Why running an operation or mapping an entity fails. -/
inductive MappingFault where
  /-- The query is refused. -/
  | query (fault : QueryFault)
  /-- The database fails. -/
  | database (fault : DatabaseFault)
  /-- A row, or the parent of a relation, lacks a column. -/
  | missingColumn (column : String)
  /-- The value of a column cannot be read as the type expected. -/
  | decode (column expected found : String)
  /-- A record has no key to address its row by. -/
  | missingPrimaryKey (table : String)
  /-- The table has no column that marks rows as deleted. -/
  | notSoftDeleting (table : String)
  /-- The entity has no such attribute. -/
  | unknownAttribute (table column : String)
  /-- The task that ran the operation died. -/
  | lostTask
deriving DecidableEq, Inhabited

namespace MappingFault

/-- The wording of a fault. -/
def message : MappingFault → String
  | .query fault => "query error: " ++ fault.message
  | .database .noConnection => "database error: no connection"
  | .database .failedStatement => "database error: the statement failed"
  | .missingColumn column => "missing column: " ++ column
  | .decode column expected found =>
    "cannot decode column `" ++ column ++ "` as " ++ expected ++ ", found " ++ found
  | .missingPrimaryKey table => "model in `" ++ table ++ "` has no primary key value"
  | .notSoftDeleting table => "table `" ++ table ++ "` does not use soft deletes"
  | .unknownAttribute table column => "unknown attribute `" ++ column ++ "` on `" ++ table ++ "`"
  | .lostTask => "worker task failed"

end MappingFault

/-- The value of a column read as a datum of a type. -/
def decode (α : Type) [FromValue α] (column : String) (v : Value) : Except MappingFault α :=
  match FromValue.read? v with
  | some a => .ok a
  | none => .error (.decode column (FromValue.typeName α) v.typeName)

end SqlMapper
