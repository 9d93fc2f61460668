import SqlMapper.Data.ColumnValues
import SqlMapper.Execution.Fault

/-!
# Rows

A row of a result is made by setting its columns one after another. Where a result has two columns
of one name, the row has one, at the place of the first and with the value of the last.
-/

namespace SqlMapper

/-- A row of a result. -/
structure Row where
  /-- The columns with their values. -/
  values : ColumnValues := {}
deriving DecidableEq, Inhabited

namespace Row

/-- The row made of the columns of a result, in order. -/
def ofResult (columns : List (String × Value)) : Row :=
  ⟨ColumnValues.ofList columns⟩

/-- The value of a column. -/
def value? (row : Row) (column : String) : Option Value :=
  row.values.get? column

/-- The value of a column read as a datum of a type. -/
def get (α : Type) [FromValue α] (row : Row) (column : String) : Except MappingFault α :=
  match row.value? column with
  | some v => decode α column v
  | none => .error (.missingColumn column)

/-- Whether a column is absent or null. -/
def isNull (row : Row) (column : String) : Bool :=
  row.values.isUnset column

/-- The value of the first column. -/
def first? (row : Row) : Option Value :=
  row.values.values.head?

end Row

end SqlMapper
