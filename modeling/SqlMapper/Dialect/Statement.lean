import SqlMapper.Dialect.Select

/-!
# Statements

A query is compiled into one of six statements. Compiling looks at the query only; it refuses a
query without a table, an insert or update with nothing staged, and an insert whose staged values do
not fill its placeholders. A statement to be run is a text with the values for its placeholders.
-/

namespace SqlMapper

/-- A text with the values for its placeholders. -/
structure Statement where
  /-- What the statement was compiled as; nothing for a text given by the caller. -/
  kind : Option StatementKind
  /-- The text. -/
  sql : String
  /-- The values for the placeholders, in order. -/
  bindings : List Value
  /-- The columns that the statement writes, in the order of their values. -/
  written : List String := []
deriving DecidableEq, Inhabited

/-- The columns that a statement writes with the values they are given, row after row. The values to
be written come before those of conditions. -/
def Statement.assignments (s : Statement) : List (String × Value) :=
  s.written.zip s.bindings

/-- The columns that a statement of a query writes, once for each row. -/
def Query.writtenColumns (q : Query) : StatementKind → List String
  | .insert | .insertMany => (List.replicate q.insertRows q.insertColumns).flatten
  | .update => q.assignments
  | _ => []

namespace Dialect

/-- The conditions on rows, after a space when there are any. -/
def whereTail (d : Dialect) (q : Query) : String :=
  let wheres := d.part q .wheres
  if wheres == "" then "" else " " ++ wheres

/-- The text that asks whether a query has rows. -/
def existence (d : Dialect) (q : Query) : String :=
  "SELECT EXISTS(" ++ d.select q ++ ") AS " ++ d.wrap "exists"

/-- The placeholders of one inserted row. -/
def rowTuple (d : Dialect) (q : Query) : String :=
  "(" ++ d.placeholders q.insertColumns.length ++ ")"

/-- The text that inserts the staged rows. -/
def insert (d : Dialect) (q : Query) : Except QueryFault String :=
  let cells := q.insertColumns.length * q.insertRows
  let staged := (q.bindingsFor .insert).length
  if q.insertColumns.isEmpty || q.insertRows == 0 then .error .emptyInsert
  else if staged ≠ cells then .error (.bindingMismatch cells staged)
  else .ok ("INSERT INTO " ++ d.wrap q.table ++ " (" ++ d.wrapAll q.insertColumns ++ ") VALUES " ++
    ", ".intercalate (List.replicate q.insertRows (d.rowTuple q)))

/-- An assignment of an update. -/
def assignmentText (d : Dialect) (column : String) : String :=
  d.wrap column ++ " = " ++ d.placeholder

/-- The text that updates the rows of a query. -/
def update (d : Dialect) (q : Query) : Except QueryFault String :=
  if q.assignments.isEmpty then .error .emptyAssignment
  else .ok ("UPDATE " ++ d.wrap q.table ++ " SET " ++
    ", ".intercalate (q.assignments.map d.assignmentText) ++ d.whereTail q)

/-- The text that deletes the rows of a query. -/
def delete (d : Dialect) (q : Query) : String :=
  "DELETE FROM " ++ d.wrap q.table ++ d.whereTail q

/-- The text of a statement, whether or not the query has a table. -/
def text (d : Dialect) (q : Query) : StatementKind → Except QueryFault String
  | .select => .ok (d.select q)
  | .existence => .ok (d.existence q)
  | .insert | .insertMany => d.insert q
  | .update => d.update q
  | .delete => .ok (d.delete q)

/-- The text of a statement. A query without a table is refused first. -/
def compile (d : Dialect) (kind : StatementKind) (q : Query) : Except QueryFault String :=
  if q.table == "" then .error .missingTable else d.text q kind

/-- A statement ready to be run. -/
def prepare (d : Dialect) (kind : StatementKind) (q : Query) : Except QueryFault Statement :=
  match d.compile kind q with
  | .ok sql =>
    .ok { kind := some kind, sql, bindings := q.bindingsFor kind, written := q.writtenColumns kind }
  | .error fault => .error fault

/-- A comparison with null asks for null; clauses follow each other with their connectors. -/
example : mysql.compile .select
    (((Query.ofTable "t").whereEq "a" .null).addWhere .or (.among "b" [] true)) =
      .ok "SELECT * FROM `t` WHERE `a` IS NULL OR 1 = 1" := by rfl

end Dialect

end SqlMapper
