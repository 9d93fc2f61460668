import SqlMapper.Data.ColumnValues
import SqlMapper.Statement.Bindings
import SqlMapper.Statement.Clause

/-!
# Queries

A query gathers what one statement needs: the table, the clauses, the order and the page, the values
staged for writing, and the bound values of all of these. The operations here change one part each.
Every value that enters a clause enters the bindings at the same time, at the end of its section, so
the section lists the values in the order in which their placeholders will stand.
-/

namespace SqlMapper

/-- What one statement needs. Sub-selects are queries inside clauses. -/
structure Query where
  /-- The table; empty when none was given. -/
  table : String := ""
  /-- The selected columns; none stands for all. -/
  columns : List String := []
  /-- Whether equal rows are returned once. -/
  distinct : Bool := false
  /-- Conditions on rows. -/
  wheres : List (Clause Query) := []
  /-- Joins with other tables. -/
  joins : List Join := []
  /-- Columns to group by. -/
  groups : List String := []
  /-- Conditions on groups. -/
  havings : List (Clause Query) := []
  /-- Columns to sort by. -/
  orders : List Ordering := []
  /-- The largest number of rows. -/
  limit : Option Nat := none
  /-- The number of rows to skip. -/
  offset : Option Nat := none
  /-- Columns that an update assigns. -/
  assignments : List String := []
  /-- Columns that an insert fills. -/
  insertColumns : List String := []
  /-- Number of rows of an insert. -/
  insertRows : Nat := 0
  /-- The values bound by all of these. -/
  bindings : Bindings := {}
deriving Inhabited

namespace Query

/-- A query on a table. -/
def ofTable (table : String) : Query := { table }

/-- The values that fill the placeholders of a statement, in order. -/
def bindingsFor (q : Query) (kind : StatementKind) : List Value :=
  q.bindings.forStatement kind

/-- The values that a predicate puts in place of its placeholders. A sub-select brings the values of
its own conditions. -/
def predicateValues : Predicate Query → List Value
  | .compare _ _ value => [value]
  | .nullCheck _ _ => []
  | .among _ values _ => values
  | .amongSelect _ select _ => select.bindingsFor .select

/-- Adds a condition on rows and binds its values. -/
def addWhere (q : Query) (connector : Connector) (predicate : Predicate Query) : Query :=
  let predicate := predicate.normalize
  { q with
    wheres := q.wheres ++ [⟨connector, predicate⟩]
    bindings := q.bindings.append .rows (predicateValues predicate) }

/-- Adds a condition on groups and binds its values. -/
def addHaving (q : Query) (connector : Connector) (predicate : Predicate Query) : Query :=
  let predicate := predicate.normalize
  { q with
    havings := q.havings ++ [⟨connector, predicate⟩]
    bindings := q.bindings.append .groups (predicateValues predicate) }

/-- Adds the condition that a column equals a value, which both this and all earlier conditions have
to meet. For null the condition is that the column is null. -/
def whereEq (q : Query) (column : String) (value : Value) : Query :=
  q.addWhere .and (.comparison column .eq value)

/-- Adds the condition that a column is null. -/
def whereNull (q : Query) (column : String) : Query :=
  q.addWhere .and (.nullCheck column false)

/-- Adds the condition that a column is not null. -/
def whereNotNull (q : Query) (column : String) : Query :=
  q.addWhere .and (.nullCheck column true)

/-- Stages assignments for an update, after those already staged. -/
def stageUpdate (q : Query) (values : ColumnValues) : Query :=
  { q with
    assignments := q.assignments ++ values.columns
    bindings := q.bindings.append .update values.values }

/-- The values of a row for the given columns, in the order of the columns. -/
def alignRow (columns : List String) (index : Nat) (row : ColumnValues) :
    Except QueryFault (List Value) :=
  columns.mapM fun column =>
    match row.get? column with
    | some value => .ok value
    | none => .error (.insertColumnMismatch index column)

/-- The values of rows for the given columns, row after row. A row with another number of columns is
refused before its columns are looked up. -/
def alignRows (columns : List String) : Nat → List ColumnValues → Except QueryFault (List Value)
  | _, [] => .ok []
  | index, row :: rows => do
    if row.size ≠ columns.length then
      throw (.insertRowMismatch index columns.length row.size)
    let first ← alignRow columns index row
    let others ← alignRows columns (index + 1) rows
    return first ++ others

/-- Stages the rows of an insert. All rows must have the columns of the first one, in any order. The
columns and the number of rows take the place of those staged before; the values are added after
those staged before. -/
def stageInsert (q : Query) (rows : List ColumnValues) : Except QueryFault Query :=
  match rows with
  | [] => .error .emptyInsert
  | first :: _ =>
    if first.isEmpty then .error .emptyInsert
    else do
      let staged ← alignRows first.columns 0 rows
      return { q with
        insertColumns := first.columns
        insertRows := rows.length
        bindings := q.bindings.append .insert staged }

end Query

end SqlMapper
